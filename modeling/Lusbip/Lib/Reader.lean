import Mathlib.Data.List.Basic

/-!
# Readers over a byte stream

What an asynchronous function over a byte stream does between its first poll and its
return: a sequence of *read exactly `n` bytes* steps, each of which decides what to read
next. A `Reader` is that function as a value, so that a future which has taken part of its
input is again a `Reader`, and dropping it is forgetting one.

`feed` is one poll: the reader takes what has arrived, as far as it needs it. `read` is the
function applied to a whole stream, and `frames` is the function applied again and again,
from the first byte on. The one law a segmented stream needs is `feed_append`: feeding two
segments one after the other is feeding their concatenation.
-/

namespace Lib

universe u

/-- A read function: it has returned, or it waits for exactly `n` bytes. -/
inductive Reader (α : Type*) where
  | done (a : α)
  | exact (n : Nat) (k : List UInt8 → Reader α)

namespace Reader

variable {α β ε : Type*}

def bind (f : α → Reader β) : Reader α → Reader β
  | .done a => f a
  | .exact n k => .exact n fun bs => bind f (k bs)

instance : Monad Reader where
  pure := .done
  bind r f := r.bind f

/-- One poll. The reader takes bytes of `s` as far as its next reads need them; what is
    left over stays with the stream. A read that wants more keeps the bytes it got. -/
def feed : Reader α → List UInt8 → Reader α × List UInt8
  | .done a, s => (.done a, s)
  | .exact n k, s =>
      if n ≤ s.length then feed (k (s.take n)) (s.drop n)
      else (.exact (n - s.length) fun t => k (s ++ t), [])

/-- The value returned, once there is one. -/
def returned? : Reader α → Option α
  | .done a => some a
  | .exact _ _ => none

@[simp] theorem returned?_done (a : α) : (Reader.done a).returned? = some a := rfl

@[simp] theorem returned?_exact (n : Nat) (k : List UInt8 → Reader α) :
    (Reader.exact n k).returned? = none := rfl

/-- The function applied to a whole stream: its result and the unread rest, or `none` when
    the stream ends before the function returns. -/
def read (r : Reader α) (s : List UInt8) : Option (α × List UInt8) :=
  (feed r s).1.returned?.map fun a => (a, (feed r s).2)

/-- **Segmentation does not matter to a reader that is kept**: two polls are one. -/
theorem feed_append (r : Reader α) (s t : List UInt8) :
    feed r (s ++ t) = feed (feed r s).1 ((feed r s).2 ++ t) := by
  induction r generalizing s with
  | done a => rfl
  | exact n k ih =>
    by_cases hn : n ≤ s.length
    · have hst : n ≤ (s ++ t).length := by simp; omega
      rw [feed, if_pos hst, List.take_append_of_le_length hn,
        List.drop_append_of_le_length hn, feed, if_pos hn]
      exact ih (s.take n) (s.drop n)
    · have htake : ∀ m, s.length ≤ m → (s ++ t).take m = s ++ t.take (m - s.length) := by
        intro m hm
        rw [List.take_append, List.take_of_length_le hm]
      have hdrop : ∀ m, s.length ≤ m → (s ++ t).drop m = t.drop (m - s.length) := by
        intro m hm
        rw [List.drop_append, List.drop_of_length_le hm, List.nil_append]
      rw [show feed (.exact n k) s = (.exact (n - s.length) fun u => k (s ++ u), []) by
        rw [feed, if_neg hn]]
      simp only [List.nil_append, feed, List.length_append]
      by_cases hb : n ≤ s.length + t.length
      · rw [if_pos hb, if_pos (by omega : n - s.length ≤ t.length),
          htake n (by omega), hdrop n (by omega)]
      · rw [if_neg hb, if_neg (by omega : ¬ n - s.length ≤ t.length)]
        simp only [List.append_assoc, Nat.sub_sub]

/-- A reader that has not returned has taken everything it was given. -/
theorem feed_snd_of_pending {r : Reader α} {s : List UInt8}
    (h : (feed r s).1.returned? = none) : (feed r s).2 = [] := by
  induction r generalizing s with
  | done a => simp [feed] at h
  | exact n k ih =>
    by_cases hn : n ≤ s.length
    · rw [feed, if_pos hn] at h ⊢
      exact ih (s.take n) h
    · rw [feed, if_neg hn]

/-- What is left over is a suffix: a reader takes bytes from the front only. -/
theorem feed_snd_length_le (r : Reader α) (s : List UInt8) :
    (feed r s).2.length ≤ s.length := by
  induction r generalizing s with
  | done a => exact Nat.le_refl _
  | exact n k ih =>
    by_cases hn : n ≤ s.length
    · rw [feed, if_pos hn]
      exact Nat.le_trans (ih _ _) (by simp)
    · rw [feed, if_neg hn]
      exact Nat.zero_le _

theorem feed_of_returned {r : Reader α} {a : α} (h : r.returned? = some a) (s : List UInt8) :
    feed r s = (r, s) := by
  cases r with
  | done b => rfl
  | exact n k => simp at h

theorem read_eq_some {r : Reader α} {s : List UInt8} {a : α} {rest : List UInt8} :
    read r s = some (a, rest) ↔ (feed r s).1.returned? = some a ∧ (feed r s).2 = rest := by
  simp only [read, Option.map_eq_some_iff, Prod.mk.injEq]
  constructor
  · rintro ⟨b, hb, rfl, hrest⟩
    exact ⟨hb, hrest⟩
  · rintro ⟨ha, hrest⟩
    exact ⟨a, ha, rfl, hrest⟩

theorem read_eq_none {r : Reader α} {s : List UInt8} :
    read r s = none ↔ (feed r s).1.returned? = none := by
  simp [read]

/-- More input does not change what a complete prefix was read as. -/
theorem read_append_of_some {r : Reader α} {s : List UInt8} {a : α} {rest : List UInt8}
    (h : read r s = some (a, rest)) (t : List UInt8) :
    read r (s ++ t) = some (a, rest ++ t) := by
  obtain ⟨ha, hrest⟩ := read_eq_some.mp h
  refine read_eq_some.mpr ?_
  rw [feed_append, feed_of_returned ha, hrest]
  exact ⟨ha, rfl⟩

/-! ## Reading a stream frame by frame -/

/-- A reader that returns a value has read at least one byte for it. -/
def Consumes (p : Reader (Except ε α)) : Prop :=
  ∀ s a rest, read p s = some (.ok a, rest) → rest.length < s.length

/-- A reader whose first read wants a byte consumes one. -/
theorem consumes_exact {n : Nat} (hn : 0 < n) (k : List UInt8 → Reader (Except ε α)) :
    Consumes (.exact n k) := by
  intro s a rest h
  obtain ⟨hval, hrest⟩ := read_eq_some.mp h
  by_cases hlen : n ≤ s.length
  · rw [feed, if_pos hlen] at hrest
    have hle := feed_snd_length_le (k (s.take n)) (s.drop n)
    rw [hrest, List.length_drop] at hle
    omega
  · rw [feed, if_neg hlen] at hval
    exact absurd hval (by simp)

/-- The values read from a stream, at most `n` of them, and the error that stopped the
    reading; `none` when the stream ended instead. -/
def framesUpTo (p : Reader (Except ε α)) : Nat → List UInt8 → List α × Option ε
  | 0, _ => ([], none)
  | n + 1, s =>
      match read p s with
      | none => ([], none)
      | some (.error e, _) => ([], some e)
      | some (.ok a, rest) => (a :: (framesUpTo p n rest).1, (framesUpTo p n rest).2)

/-- **The stream, read from its first byte**: `p` applied repeatedly until it fails or the
    stream ends. -/
def frames (p : Reader (Except ε α)) (s : List UInt8) : List α × Option ε :=
  framesUpTo p (s.length + 1) s

variable {p : Reader (Except ε α)}

/-- Any fuel beyond the length of the stream gives the same frames. -/
theorem framesUpTo_eq (hp : p.Consumes) {n m : Nat} {s : List UInt8}
    (hn : s.length < n) (hm : s.length < m) : framesUpTo p n s = framesUpTo p m s := by
  induction n generalizing m s with
  | zero => omega
  | succ n ih =>
    cases m with
    | zero => omega
    | succ m =>
      simp only [framesUpTo]
      cases hr : read p s with
      | none => rfl
      | some r =>
        obtain ⟨res, rest⟩ := r
        cases res with
        | error e => rfl
        | ok a =>
          have hlt := hp s a rest hr
          simp only [ih (m := m) (s := rest) (by omega) (by omega)]

theorem frames_of_none {s : List UInt8} (h : read p s = none) : frames p s = ([], none) := by
  simp [frames, framesUpTo, h]

theorem frames_of_error {s : List UInt8} {e : ε} {rest : List UInt8}
    (h : read p s = some (.error e, rest)) : frames p s = ([], some e) := by
  simp [frames, framesUpTo, h]

theorem frames_of_ok (hp : p.Consumes) {s : List UInt8} {a : α} {rest : List UInt8}
    (h : read p s = some (.ok a, rest)) :
    frames p s = (a :: (frames p rest).1, (frames p rest).2) := by
  have hlt := hp s a rest h
  simp only [frames]
  rw [framesUpTo, h]
  simp only [framesUpTo_eq hp (n := s.length) (m := rest.length + 1) hlt (Nat.lt_succ_self _)]

/-! ## What a reader takes for a value

`Reads r s a` says that `r` takes exactly the bytes `s` and returns `a`. It is what a format
says about its decoder: a reader put together from parts reads the concatenation of what the
parts read, and a stream of encoded values is read value by value. -/

/-- `r` reads the bytes `s`, all of them, and returns `a`. -/
inductive Reads : Reader α → List UInt8 → α → Prop
  | done (a : α) : Reads (.done a) [] a
  | exact {n : Nat} {k : List UInt8 → Reader α} {bs rest : List UInt8} {a : α}
      (hlen : bs.length = n) (hk : Reads (k bs) rest a) : Reads (.exact n k) (bs ++ rest) a

variable {r : Reader α} {s : List UInt8} {a : α}

theorem reads_pure (a : α) : Reads (pure a) [] a := .done a

/-- A reader whose only read is the one of `s`. -/
theorem reads_exact {n : Nat} {k : List UInt8 → Reader α} (hlen : s.length = n)
    (hk : k s = .done a) : Reads (.exact n k) s a := by
  have h : Reads (.exact n k) (s ++ []) a := .exact hlen (hk ▸ .done a)
  rwa [List.append_nil] at h

theorem Reads.bind {γ δ : Type u} {r : Reader γ} {f : γ → Reader δ} {s t : List UInt8} {c : γ}
    {d : δ} (hr : Reads r s c) (hf : Reads (f c) t d) : Reads (r >>= f) (s ++ t) d := by
  show Reads (r.bind f) (s ++ t) d
  induction hr with
  | done a => exact hf
  | exact hlen hk ih =>
    rw [List.append_assoc]
    exact .exact hlen (ih hf)

/-- A value that is only rewrapped takes no bytes of its own. -/
theorem Reads.wrap {γ δ : Type u} {r : Reader γ} {s : List UInt8} {c : γ} (hr : Reads r s c)
    (f : γ → δ) : Reads (r >>= fun x => pure (f x)) s (f c) := by
  have h : Reads (r >>= fun x => pure (f x)) (s ++ []) (f c) := hr.bind (reads_pure (f c))
  rwa [List.append_nil] at h

/-- What a reader reads it reads from a longer stream too, and leaves the rest. -/
theorem Reads.feed (h : Reads r s a) (t : List UInt8) : feed r (s ++ t) = (.done a, t) := by
  induction h with
  | done a => rfl
  | exact hlen hk ih =>
    subst hlen
    rw [List.append_assoc, Reader.feed, if_pos (by simp), List.take_left, List.drop_left]
    exact ih

theorem Reads.read (h : Reads r s a) (t : List UInt8) : read r (s ++ t) = some (a, t) := by
  rw [Reader.read, h.feed]
  rfl

/-- A reader that is given less than it reads does not return. -/
theorem Reads.read_cut (h : Reads r s a) {cut : List UInt8} (hp : cut <+: s)
    (hne : cut ≠ s) : Reader.read r cut = none := by
  rw [read_eq_none]
  induction h generalizing cut with
  | done a => exact absurd (List.prefix_nil.mp hp) hne
  | exact hlen hk ih =>
    rename_i n k bs rest a
    by_cases hn : n ≤ cut.length
    · obtain ⟨rest', rfl⟩ : bs <+: cut :=
        List.prefix_of_prefix_length_le (List.prefix_append bs rest) hp (hlen ▸ hn)
      subst hlen
      rw [Reader.feed, if_pos hn, List.take_left, List.drop_left]
      exact ih ((List.prefix_append_right_inj bs).mp hp) fun heq => hne (heq ▸ rfl)
    · rw [Reader.feed, if_neg hn]
      rfl

/-! ### Counted values -/

/-- One value after another, a number of them. -/
def times {γ : Type u} (r : Reader γ) : Nat → Reader (List γ)
  | 0 => pure []
  | n + 1 => do
      let c ← r
      let cs ← times r n
      pure (c :: cs)

/-- **Counted values are read in their order**, if the count is theirs. -/
theorem Reads.times {γ : Type u} {α : Type*} {r : Reader γ} {encode : α → List UInt8}
    {value : α → γ} {as : List α} (h : ∀ a ∈ as, Reads r (encode a) (value a)) :
    Reads (r.times as.length) (as.flatMap encode) (as.map value) := by
  induction as with
  | nil => exact reads_pure []
  | cons a as ih =>
    have htail := ih fun b hb => h b (List.mem_cons_of_mem a hb)
    exact (h a List.mem_cons_self).bind (htail.wrap fun cs => value a :: cs)

end Reader
end Lib

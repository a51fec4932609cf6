import Lusbip.Lib.Fields

/-!
# The control protocol of the background agent

A controller and the agent of one endpoint talk over a socket, one request and one response a
connection. A request is a line. A response is a line too, or the lines of a snapshot between
`OK` and `END`. Whatever is free text goes through `percentEncode`, which leaves no tab, carriage
return or newline in it, and so the lines and fields of what is written are those of what was
meant.

Texts are lists of characters; what goes over the socket is their UTF-8 bytes, and a reader that
finds the connection closed sees a prefix of these, cut anywhere.
-/

namespace Lusbip
namespace Agent

open Lib
open Lib.Fields

/-- A row of the list, with the id that a request has for it. -/
structure TuiItem where
  id : Text
  label : Text
  deriving DecidableEq, Repr

/-- What a client asks of the agent. -/
inductive ControlRequest where
  | status
  | toggle (busId : Text)
  | shutdown
  deriving DecidableEq, Repr

/-- What the agent answers. -/
inductive ControlResponse where
  | snapshot (items : List TuiItem)
  | message (message : Text)
  | error (message : Text)
  deriving DecidableEq, Repr

/-! ## Escaping -/

/-- `str::replace`, for a single character. -/
def replace (c : Char) (code value : Text) : Text :=
  value.flatMap fun d => if d = c then code else [d]

/-- The characters that end a field or a line are written as percent escapes, and so is the percent
    sign itself. -/
def percentEncode (value : Text) : Text :=
  replace '\n' "%0A".toList
    (replace '\r' "%0D".toList (replace '\t' "%09".toList (replace '%' "%25".toList value)))

/-- The loop of `percent_decode`, with its `output` so far. -/
def percentDecodeFrom (output : Text) : Text → Except Text Text
  | [] => .ok output
  | ch :: chars =>
      if ch ≠ '%' then percentDecodeFrom (output ++ [ch]) chars
      else
        match chars with
        | '2' :: '5' :: chars => percentDecodeFrom (output ++ ['%']) chars
        | '0' :: '9' :: chars => percentDecodeFrom (output ++ ['\t']) chars
        | '0' :: 'D' :: chars => percentDecodeFrom (output ++ ['\r']) chars
        | '0' :: 'A' :: chars => percentDecodeFrom (output ++ ['\n']) chars
        | _ => .error "Invalid percent encoding in client-agent request".toList

/-- The escapes are read; anything else after a percent sign is an error. -/
def percentDecode (value : Text) : Except Text Text := percentDecodeFrom [] value

/-- What becomes of one character. The percent signs of the later replacements are not touched
    again, as the percent sign is replaced first. -/
def escape (c : Char) : Text :=
  if c = '%' then "%25".toList
  else if c = '\t' then "%09".toList
  else if c = '\r' then "%0D".toList
  else if c = '\n' then "%0A".toList
  else [c]

theorem percentEncode_eq (value : Text) : percentEncode value = value.flatMap escape := by
  rw [percentEncode, replace, replace, replace, replace, List.flatMap_assoc, List.flatMap_assoc,
    List.flatMap_assoc]
  refine List.flatMap_congr fun c _ => ?_
  by_cases h₁ : c = '%'
  · subst h₁
    rfl
  by_cases h₂ : c = '\t'
  · subst h₂
    rfl
  by_cases h₃ : c = '\r'
  · subst h₃
    rfl
  by_cases h₄ : c = '\n'
  · subst h₄
    rfl
  · simp [escape, h₁, h₂, h₃, h₄]

@[simp] theorem percentEncode_nil : percentEncode [] = [] := rfl

theorem percentEncode_cons (c : Char) (value : Text) :
    percentEncode (c :: value) = escape c ++ percentEncode value := by
  rw [percentEncode_eq, percentEncode_eq, List.flatMap_cons]

theorem escape_ne_nil (c : Char) : escape c ≠ [] := by
  unfold escape
  split_ifs <;> simp

theorem percentEncode_ne_nil {value : Text} (h : value ≠ []) : percentEncode value ≠ [] := by
  cases value with
  | nil => exact absurd rfl h
  | cons c value =>
    rw [percentEncode_cons]
    exact List.append_ne_nil_of_left_ne_nil (escape_ne_nil c) _

theorem notMem_escape {s : Char} (hs : s ∈ ['\t', '\r', '\n']) (c : Char) : s ∉ escape c := by
  unfold escape
  simp only [List.mem_cons, List.not_mem_nil, or_false] at hs
  rcases hs with rfl | rfl | rfl <;> split_ifs <;> simp <;> tauto

/-- No tab, carriage return or newline is left. -/
theorem notMem_percentEncode {s : Char} (hs : s ∈ ['\t', '\r', '\n']) (value : Text) :
    s ∉ percentEncode value := by
  rw [percentEncode_eq]
  intro h
  obtain ⟨c, -, hc⟩ := List.mem_flatMap.mp h
  exact notMem_escape hs c hc

theorem percentDecodeFrom_escape (output : Text) (c : Char) (rest : Text) :
    percentDecodeFrom output (escape c ++ rest) = percentDecodeFrom (output ++ [c]) rest := by
  unfold escape
  split_ifs with h₁ h₂ h₃ h₄
  · rw [h₁]
    rfl
  · rw [h₂]
    rfl
  · rw [h₃]
    rfl
  · rw [h₄]
    rfl
  · rw [List.singleton_append, percentDecodeFrom.eq_def]
    exact if_pos h₁

theorem percentDecodeFrom_percentEncode (output value : Text) :
    percentDecodeFrom output (percentEncode value) = .ok (output ++ value) := by
  induction value generalizing output with
  | nil => rw [List.append_nil]; rfl
  | cons c value ih =>
    rw [percentEncode_cons, percentDecodeFrom_escape, ih, List.append_assoc, List.singleton_append]

@[simp] theorem percentDecode_percentEncode (value : Text) :
    percentDecode (percentEncode value) = .ok value :=
  percentDecodeFrom_percentEncode [] value

/-! ## Requests -/

/-- `trim_end_matches(['\r', '\n'])` -/
def trimLineEnd (line : Text) : Text := line.rdropWhile fun c => c = '\r' || c = '\n'

/-- A line without its newline, if no carriage return or newline is in it. -/
theorem trimLineEnd_newline {line : Text} (hcr : '\r' ∉ line) (hnl : '\n' ∉ line) :
    trimLineEnd (line ++ ['\n']) = line := by
  rw [trimLineEnd, List.rdropWhile_concat_pos _ _ _ (by decide)]
  refine rdropWhile_eq_self fun c hc => ?_
  have hc := List.mem_of_getLast? hc
  have h₁ : c ≠ '\r' := fun h => hcr (h ▸ hc)
  have h₂ : c ≠ '\n' := fun h => hnl (h ▸ hc)
  simp [h₁, h₂]

/-- A line is read as a request. An empty bus id makes none. -/
def ControlRequest.parse (input : Text) : Except Text ControlRequest :=
  let input := trimLineEnd input
  if input = "STATUS".toList then .ok .status
  else if input = "SHUTDOWN".toList then .ok .shutdown
  else
    match (stripPrefix "TOGGLE\t".toList input).filter (fun busId => busId ≠ []) with
    | none => .error "Invalid client-agent control request".toList
    | some busId => (percentDecode busId).map .toggle

/-- The line `send_request` writes. -/
def ControlRequest.line : ControlRequest → Text
  | .status => "STATUS\n".toList
  | .shutdown => "SHUTDOWN\n".toList
  | .toggle busId => "TOGGLE\t".toList ++ percentEncode busId ++ ['\n']

/-- The requests a controller makes: a row has a bus id. -/
def ControlRequest.Named : ControlRequest → Prop
  | .toggle busId => busId ≠ []
  | _ => True

/-- One line: a newline at the end, and none in front of it, nor a carriage return. -/
def OneLine (text : Text) : Prop :=
  ∃ line, text = line ++ ['\n'] ∧ '\n' ∉ line ∧ '\r' ∉ line

theorem OneLine.encoded {pre value : Text} (hn : '\n' ∉ pre) (hr : '\r' ∉ pre) :
    OneLine (pre ++ percentEncode value ++ ['\n']) := by
  refine ⟨_, rfl, ?_, ?_⟩
  · rw [List.mem_append]
    exact not_or.mpr ⟨hn, notMem_percentEncode (by decide) value⟩
  · rw [List.mem_append]
    exact not_or.mpr ⟨hr, notMem_percentEncode (by decide) value⟩

theorem ControlRequest.oneLine (request : ControlRequest) : OneLine request.line := by
  cases request with
  | status => exact ⟨"STATUS".toList, rfl, by decide, by decide⟩
  | shutdown => exact ⟨"SHUTDOWN".toList, rfl, by decide, by decide⟩
  | toggle busId => exact OneLine.encoded (by decide) (by decide)

theorem OneLine.trim_eq {line : Text} (h : OneLine (line ++ ['\n'])) :
    trimLineEnd (line ++ ['\n']) = line := by
  obtain ⟨line', heq, hn, hr⟩ := h
  rw [heq, trimLineEnd_newline hr hn, List.append_cancel_right heq]

/-- What is asked is what is understood. -/
theorem ControlRequest.parse_line {request : ControlRequest} (h : request.Named) :
    ControlRequest.parse request.line = .ok request := by
  cases request with
  | status => rfl
  | shutdown => rfl
  | toggle busId =>
    have hne : percentEncode busId ≠ [] := percentEncode_ne_nil h
    have htrim : trimLineEnd (ControlRequest.toggle busId).line
        = "TOGGLE\t".toList ++ percentEncode busId := (ControlRequest.oneLine (.toggle busId)).trim_eq
    have hfilter : (some (percentEncode busId)).filter (fun busId => decide (busId ≠ []))
        = some (percentEncode busId) := Option.filter_some_pos (decide_eq_true hne)
    rw [ControlRequest.parse, htrim, stripPrefix_append, hfilter, if_neg (by simp),
      if_neg (by simp)]
    simp only [percentDecode_percentEncode, Except.map]

/-! ## Reading lines -/

/-- `read_line` into a string: the line has to be UTF-8. At the end of the stream it is empty. -/
def readLine (what : Text) (bytes : List UInt8) : Except Text (Text × List UInt8) :=
  match decode (takeLine 10 bytes).1 with
  | some line => .ok (line, (takeLine 10 bytes).2)
  | none =>
      .error ("Cannot read client-agent ".toList ++ what
        ++ ": stream did not contain valid UTF-8".toList)

/-- The first line of what was sent, read as a request. -/
def readRequest (bytes : List UInt8) : Except Text ControlRequest := do
  let (line, _) ← readLine "request".toList bytes
  ControlRequest.parse line

theorem newline_notMem_encode {line : Text} (h : '\n' ∉ line) : 10 ∉ encode line :=
  fun hm => h ((mem_encode_ascii (a := '\n') (by decide)).mp hm)

/-- A line is read up to its newline, and what is behind it is left. -/
theorem readLine_encode {line : Text} (h : OneLine line) (what : Text) (rest : List UInt8) :
    readLine what (encode line ++ rest) = .ok (line, rest) := by
  obtain ⟨line, rfl, hn, -⟩ := h
  have hnewline : encode (line ++ ['\n']) = encode line ++ [10] := encode_append line ['\n']
  have htake : takeLine 10 (encode (line ++ ['\n']) ++ rest)
      = (encode (line ++ ['\n']), rest) := by
    rw [hnewline, List.append_assoc, List.singleton_append]
    exact takeLine_append (newline_notMem_encode hn) rest
  rw [readLine, htake, decode_encode]

/-- What is left is shorter, unless nothing was read. -/
theorem readLine_length {what line : Text} {bytes rest : List UInt8}
    (h : readLine what bytes = .ok (line, rest)) (hne : line ≠ []) :
    rest.length < bytes.length := by
  rw [readLine] at h
  cases hd : decode (takeLine 10 bytes).1 with
  | none => simp [hd] at h
  | some text =>
    simp only [hd, Except.ok.injEq, Prod.mk.injEq] at h
    obtain ⟨rfl, rfl⟩ := h
    refine takeLine_length fun hnil => hne ?_
    rw [hnil] at hd
    exact (Option.some.inj hd).symm

/-- The agent reads the request that the controller made. -/
theorem readRequest_line {request : ControlRequest} (h : request.Named) :
    readRequest (encode request.line) = .ok request := by
  have hread := readLine_encode request.oneLine "request".toList []
  rw [List.append_nil] at hread
  rw [readRequest, hread]
  exact ControlRequest.parse_line h

/-! ## Responses -/

/-- The fields of a row, each of them escaped. -/
def TuiItem.fields (item : TuiItem) : Text :=
  percentEncode item.id ++ ['\t'] ++ percentEncode item.label

/-- The line of a row. -/
def TuiItem.line (item : TuiItem) : Text := "ITEM\t".toList ++ item.fields ++ ['\n']

/-- The body `write_response` writes. -/
def ControlResponse.body : ControlResponse → Text
  | .snapshot items => "OK\n".toList ++ items.flatMap TuiItem.line ++ "END\n".toList
  | .message text => "OK\t".toList ++ percentEncode text ++ ['\n']
  | .error text => "ERR\t".toList ++ percentEncode text ++ ['\n']

/-- The bytes of a response. -/
def writeResponse (response : ControlResponse) : List UInt8 := encode response.body

/-- The fields of a line of a snapshot, still encoded. -/
def itemFields (line : Text) : Option (Text × Text) :=
  (stripPrefix "ITEM\t".toList line).bind (splitOnce ['\t'])

/-- The loop of `read_response`, with the `items` so far. -/
def readItems (items : List TuiItem) (bytes : List UInt8) : Except Text ControlResponse :=
  match _hread : readLine "snapshot".toList bytes with
  | .error err => .error err
  | .ok (line, rest) =>
      if trimLineEnd line = "END".toList then .ok (.snapshot items)
      else
        match _hfields : itemFields (trimLineEnd line) with
        | none => .error "Invalid client-agent snapshot item".toList
        | some (id, label) =>
            match percentDecode id, percentDecode label with
            | .ok id, .ok label => readItems (items ++ [{ id, label }]) rest
            | .ok _, .error err => .error err
            | .error err, _ => .error err
  termination_by bytes.length
  decreasing_by
    -- At the end of the stream the line is empty, and is no item.
    refine readLine_length _hread fun hnil => ?_
    rw [hnil] at _hfields
    cases _hfields

/-- A response is read: a message or an error on one line, or rows up to the end. -/
def readResponse (bytes : List UInt8) : Except Text ControlResponse := do
  let (first, rest) ← readLine "response".toList bytes
  let first := trimLineEnd first
  match stripPrefix "OK\t".toList first, stripPrefix "ERR\t".toList first with
  | some message, _ => (percentDecode message).map .message
  | none, some message => (percentDecode message).map .error
  | none, none =>
      if first ≠ "OK".toList then .error "Invalid client-agent response".toList
      else readItems [] rest

/-- One round of the loop. -/
theorem readItems_eq (items : List TuiItem) (bytes : List UInt8) :
    readItems items bytes =
      match readLine "snapshot".toList bytes with
      | .error err => .error err
      | .ok (line, rest) =>
          if trimLineEnd line = "END".toList then .ok (.snapshot items)
          else
            match itemFields (trimLineEnd line) with
            | none => .error "Invalid client-agent snapshot item".toList
            | some (id, label) =>
                match percentDecode id, percentDecode label with
                | .ok id, .ok label => readItems (items ++ [{ id, label }]) rest
                | .ok _, .error err => .error err
                | .error err, _ => .error err := by
  rw [readItems]
  split
  · next h => rw [h]
  · next line rest h =>
    rw [h]
    dsimp only
    split
    · rfl
    · split
      · next hf => rw [hf]
      · next hf => rw [hf]

theorem TuiItem.notMem_fields {c : Char} (hc : c ∈ ['\r', '\n']) (item : TuiItem) :
    c ∉ item.fields := by
  have hne : c ∉ ['\t'] := fun h => by rw [List.mem_singleton.mp h] at hc; revert hc; decide
  have hmem : c ∈ ['\t', '\r', '\n'] := List.mem_cons_of_mem _ hc
  simp only [TuiItem.fields, List.mem_append, not_or]
  exact ⟨⟨notMem_percentEncode hmem item.id, hne⟩, notMem_percentEncode hmem item.label⟩

theorem TuiItem.oneLine (item : TuiItem) : OneLine item.line := by
  refine ⟨_, rfl, ?_, ?_⟩
  · rw [List.mem_append]
    exact not_or.mpr ⟨by decide, item.notMem_fields (by decide)⟩
  · rw [List.mem_append]
    exact not_or.mpr ⟨by decide, item.notMem_fields (by decide)⟩

theorem itemFields_line (item : TuiItem) :
    itemFields (trimLineEnd item.line) = some (percentEncode item.id, percentEncode item.label) := by
  have htab : '\t' ∉ percentEncode item.id := notMem_percentEncode (by decide) item.id
  have htrim : trimLineEnd item.line = "ITEM\t".toList ++ item.fields := item.oneLine.trim_eq
  rw [htrim, itemFields, stripPrefix_append, Option.bind_some]
  exact splitOnce_append htab (percentEncode item.label)

/-- What does not start like an item is none. -/
theorem itemFields_end : itemFields "END".toList = none := rfl

theorem readItems_line (items : List TuiItem) (item : TuiItem) (rest : List UInt8) :
    readItems items (encode item.line ++ rest) = readItems (items ++ [item]) rest := by
  have hfields := itemFields_line item
  have hend : trimLineEnd item.line ≠ "END".toList := by
    intro h
    rw [h, itemFields_end] at hfields
    cases hfields
  rw [readItems_eq, readLine_encode item.oneLine]
  simp only [if_neg hend, hfields, percentDecode_percentEncode]

theorem readItems_end (items : List TuiItem) (rest : List UInt8) :
    readItems items (encode "END\n".toList ++ rest) = .ok (.snapshot items) := by
  have hline : OneLine "END\n".toList := ⟨"END".toList, rfl, by decide, by decide⟩
  rw [readItems_eq, readLine_encode hline]
  exact if_pos (by decide)

theorem readItems_body (items more : List TuiItem) :
    readItems items (encode (more.flatMap TuiItem.line ++ "END\n".toList))
      = .ok (.snapshot (items ++ more)) := by
  induction more generalizing items with
  | nil =>
    have h := readItems_end items []
    rw [List.append_nil] at h
    rw [List.flatMap_nil, List.nil_append, h, List.append_nil]
  | cons item more ih =>
    rw [List.flatMap_cons, List.append_assoc, encode_append, readItems_line, ih, List.append_assoc,
      List.singleton_append]

/-- **What is answered is what is read.** -/
theorem readResponse_writeResponse (response : ControlResponse) :
    readResponse (writeResponse response) = .ok response := by
  cases response with
  | snapshot items =>
    have hline : OneLine "OK\n".toList := ⟨"OK".toList, rfl, by decide, by decide⟩
    rw [writeResponse, ControlResponse.body, List.append_assoc, encode_append, readResponse,
      readLine_encode hline]
    exact readItems_body [] items
  | message text =>
    have hline : OneLine (ControlResponse.message text).body :=
      OneLine.encoded (by decide) (by decide)
    have hread := readLine_encode hline "response".toList []
    rw [List.append_nil] at hread
    have htrim : trimLineEnd (ControlResponse.message text).body
        = "OK\t".toList ++ percentEncode text := hline.trim_eq
    rw [writeResponse, readResponse, hread]
    simp only [bind, Except.bind, htrim, stripPrefix_append, percentDecode_percentEncode,
      Except.map]
  | error text =>
    have hline : OneLine (ControlResponse.error text).body :=
      OneLine.encoded (by decide) (by decide)
    have hread := readLine_encode hline "response".toList []
    rw [List.append_nil] at hread
    have htrim : trimLineEnd (ControlResponse.error text).body
        = "ERR\t".toList ++ percentEncode text := hline.trim_eq
    have hok : stripPrefix "OK\t".toList ("ERR\t".toList ++ percentEncode text) = none := rfl
    rw [writeResponse, readResponse, hread]
    simp only [bind, Except.bind, htrim, hok, stripPrefix_append, percentDecode_percentEncode,
      Except.map]

/-! ## A response that breaks off -/

/-- A proper prefix of the bytes of a line has no newline. -/
theorem newline_notMem_cut {line : Text} (h : OneLine line) {bytes : List UInt8}
    (hp : bytes <+: encode line) (hne : bytes ≠ encode line) : 10 ∉ bytes := by
  obtain ⟨line, rfl, hn, -⟩ := h
  have hnewline : encode (line ++ ['\n']) = encode line ++ [10] := encode_append line ['\n']
  rw [hnewline] at hp hne
  have hp : bytes <+: encode line := (List.prefix_concat_iff.mp hp).resolve_left hne
  exact fun hm => newline_notMem_encode hn (hp.subset hm)

/-- A cut comes within the first part or behind it. -/
theorem cut_within_or_behind {bytes a b : List UInt8} (h : bytes <+: a ++ b) :
    (bytes <+: a ∧ bytes ≠ a) ∨ ∃ rest, bytes = a ++ rest ∧ rest <+: b := by
  rcases List.prefix_or_prefix_of_prefix h (List.prefix_append a b) with hle | ⟨rest, rfl⟩
  · by_cases heq : bytes = a
    · exact Or.inr ⟨[], by rw [heq, List.append_nil], List.nil_prefix⟩
    · exact Or.inl ⟨hle, heq⟩
  · exact Or.inr ⟨rest, rfl, (List.prefix_append_right_inj a).mp h⟩

/-- At the end of the stream there is no item, and no `END`. -/
theorem readItems_nil (items : List TuiItem) :
    readItems items [] = .error "Invalid client-agent snapshot item".toList := by
  have hread : readLine "snapshot".toList [] = .ok ([], []) := by
    have h := decode_encode []
    rw [encode_nil] at h
    simp only [readLine, takeLine, h]
  rw [readItems_eq, hread]
  rfl

/-- A last line without its newline is no `END`, or else the response fails. -/
theorem readItems_cut {items : List TuiItem} {bytes : List UInt8} (hn : 10 ∉ bytes)
    (hend : ∀ line, decode bytes = some line → trimLineEnd line ≠ "END".toList) :
    ∃ err, readItems items bytes = .error err := by
  rw [readItems_eq, readLine, takeLine_of_notMem hn]
  cases hd : decode bytes with
  | none => exact ⟨_, rfl⟩
  | some line =>
    simp only [if_neg (hend line hd)]
    cases itemFields (trimLineEnd line) with
    | none => exact ⟨_, rfl⟩
    | some fields =>
      obtain ⟨id, label⟩ := fields
      dsimp only
      cases percentDecode id with
      | error err => exact ⟨_, rfl⟩
      | ok id =>
        cases percentDecode label with
        | error err => exact ⟨_, rfl⟩
        | ok label => exact ⟨_, readItems_nil _⟩

/-- The last line of a stream, when no newline closes it. -/
theorem readLine_last {line : Text} (h : '\n' ∉ line) (what : Text) :
    readLine what (encode line) = .ok (line, []) := by
  rw [readLine, takeLine_of_notMem (newline_notMem_encode h), decode_encode]

/-- Bytes that are read as `END` start with these letters. -/
theorem end_prefix_of_trimLineEnd {bytes : List UInt8} {line : Text}
    (hd : decode bytes = some line) (ht : trimLineEnd line = "END".toList) :
    encode "END".toList <+: bytes := by
  obtain ⟨tail, htail⟩ : trimLineEnd line <+: line := List.rdropWhile_prefix _ line
  rw [ht] at htail
  rw [← encode_of_decode hd, ← htail, encode_append]
  exact List.prefix_append _ _

/-- The lines of a snapshot, cut anywhere: where not even `END` is complete, the reading fails. -/
theorem readItems_prefix {items more : List TuiItem} {bytes : List UInt8}
    (hp : bytes <+: encode (more.flatMap TuiItem.line ++ "END\n".toList))
    (hne : bytes ≠ encode (more.flatMap TuiItem.line ++ "END\n".toList)) :
    (∃ err, readItems items bytes = .error err) ∨
      readItems items bytes = .ok (.snapshot (items ++ more)) := by
  induction more generalizing items bytes with
  | nil =>
    have hline : OneLine "END\n".toList := ⟨"END".toList, rfl, by decide, by decide⟩
    have hp : bytes <+: encode "END".toList :=
      (List.prefix_concat_iff (a := 10)).mp hp |>.resolve_left hne
    by_cases hend : bytes = encode "END".toList
    · refine Or.inr ?_
      rw [hend, readItems_eq, readLine_last (by decide), List.append_nil]
      exact if_pos (by decide)
    · refine Or.inl (readItems_cut (fun hm => ?_) fun line hd ht => hend ?_)
      · have hend : '\n' ∉ "END".toList := by decide
        exact newline_notMem_encode hend (hp.subset hm)
      · exact hp.eq_of_length_le (end_prefix_of_trimLineEnd hd ht).length_le
  | cons item more ih =>
    rw [List.flatMap_cons, List.append_assoc, encode_append] at hp hne
    rcases cut_within_or_behind hp with ⟨hcut, hlt⟩ | ⟨rest, rfl, hrest⟩
    · refine Or.inl (readItems_cut (newline_notMem_cut item.oneLine hcut hlt) fun line hd ht => ?_)
      -- An item starts with another letter than `END`.
      obtain ⟨tail, htail⟩ := (end_prefix_of_trimLineEnd hd ht).trans hcut
      cases htail
    · rw [readItems_line]
      have hne : rest ≠ encode (more.flatMap TuiItem.line ++ "END\n".toList) :=
        fun h => hne (by rw [h])
      have hitems : items ++ item :: more = items ++ [item] ++ more := by
        rw [List.append_assoc, List.singleton_append]
      rw [hitems]
      exact ih hrest hne

/-- A first line that breaks off is no `OK` line with anything behind it. -/
theorem readResponse_cut {bytes : List UInt8} (hp : bytes <+: encode "OK".toList) :
    ∃ err, readResponse bytes = .error err := by
  have hcases : bytes = encode [] ∨ bytes = encode ['O'] ∨ bytes = encode ['O', 'K'] := by
    have hlen : bytes.length ≤ 2 := hp.length_le
    have htake := List.prefix_iff_eq_take.mp hp
    have hcount : bytes.length = 0 ∨ bytes.length = 1 ∨ bytes.length = 2 := by omega
    rcases hcount with h | h | h <;> rw [h] at htake
    · exact Or.inl htake
    · exact Or.inr (Or.inl htake)
    · exact Or.inr (Or.inr htake)
  rcases hcases with rfl | rfl | rfl
  · exact ⟨_, by rw [readResponse, readLine_last (by decide)]; rfl⟩
  · exact ⟨_, by rw [readResponse, readLine_last (by decide)]; rfl⟩
  · exact ⟨_, by rw [readResponse, readLine_last (by decide)]; exact readItems_nil []⟩

/-- **A snapshot that breaks off**: it is read as a whole, where only its last newline is missing,
    or the reading fails. -/
theorem readResponse_prefix {items : List TuiItem} {bytes : List UInt8}
    (hp : bytes <+: writeResponse (.snapshot items)) (hne : bytes ≠ writeResponse (.snapshot items)) :
    (∃ err, readResponse bytes = .error err) ∨ readResponse bytes = .ok (.snapshot items) := by
  have hline : OneLine "OK\n".toList := ⟨"OK".toList, rfl, by decide, by decide⟩
  rw [writeResponse, ControlResponse.body, List.append_assoc, encode_append] at hp hne
  rcases cut_within_or_behind hp with ⟨hcut, hlt⟩ | ⟨rest, rfl, hrest⟩
  · exact Or.inl (readResponse_cut ((List.prefix_concat_iff (a := 10)).mp hcut |>.resolve_left hlt))
  · rw [readResponse, readLine_encode hline]
    exact readItems_prefix hrest fun h => hne (by rw [h])

/-- **The control protocol round-trips**: a request is one line, which is understood as that
    request; a response is read as it was written; and a snapshot that breaks off is never read as
    a shorter one. -/
theorem control_roundtrips :
    (∀ request : ControlRequest, request.Named →
      OneLine request.line ∧ ControlRequest.parse request.line = .ok request ∧
        readRequest (encode request.line) = .ok request) ∧
      (∀ response, readResponse (writeResponse response) = .ok response) ∧
      ∀ items bytes, bytes <+: writeResponse (.snapshot items) →
        bytes ≠ writeResponse (.snapshot items) →
        (∃ err, readResponse bytes = .error err) ∨ readResponse bytes = .ok (.snapshot items) :=
  ⟨fun request h => ⟨request.oneLine, ControlRequest.parse_line h, readRequest_line h⟩,
    readResponse_writeResponse, fun _ _ => readResponse_prefix⟩

/-- A bus id with a tab in it, and a snapshot cut in the middle of its item. -/
theorem tab_roundtrips :
    ControlRequest.parse (ControlRequest.toggle ['5', '\t', '1']).line
        = .ok (.toggle ['5', '\t', '1']) ∧
      ((∃ err, readResponse [79, 75, 10, 73, 84] = .error err) ∨
        readResponse [79, 75, 10, 73, 84] = .ok (.snapshot [⟨['5', '-', '1'], ['%']⟩])) :=
  ⟨(control_roundtrips.1 (.toggle ['5', '\t', '1']) (List.cons_ne_nil _ _)).2.1,
    control_roundtrips.2.2 [⟨['5', '-', '1'], ['%']⟩] _ (by decide) (by decide)⟩

end Agent
end Lusbip

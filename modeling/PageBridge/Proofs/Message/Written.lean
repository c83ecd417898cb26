import PageBridge.Proofs.Json.RoundTrip
import PageBridge.Proofs.Message.Acceptance

/-!
# Reading the envelopes that are written

An envelope is read back with its marks and its data, whatever characters they hold, when the data is
a plain value that is not nested too deep (`Envelope.parse?_carrying`).  The inner half of a bridge
writes each message of the page into an envelope with the marks of its session, as a string.  So in the
session that it was written in a message is admissible as soon as it is JSON and fits
(`admissible_posting_iff`).
-/

namespace PageBridge

namespace Envelope

open PageBridge.Json

/-! ## Members -/

/-- A text is read back from its quoted form, whatever follows. -/
theorem readText_quote_append (s : String) (rest : List Char) :
    readText ((quote s).toList ++ rest) = some (s, rest) := by
  simp only [readText, skipSpace_quote_append]
  simp [readString_escape_append, Except.toOption]

/-- A namespace is read as one, and not as null. -/
theorem readNspace_quote_append (s : String) (rest : List Char) :
    readNspace ((quote s).toList ++ rest) = some (some s, rest) := by
  have hskip : skipSpace ((quote s).toList ++ rest) = (quote s).toList ++ rest := by
    rw [skipSpace_quote_append, toList_quote_append]
  have hread := readText_quote_append s rest
  rw [toList_quote_append] at hread
  simp only [readNspace, hskip]
  rw [toList_quote_append]
  simp [hread]

/-- A plain value that is not nested too deep is read as the data that it is. -/
theorem readData_chars_append {steps : Nat} {data : Value} {rest : List Char}
    (hplain : data.isPlain = true) (hdepth : data.depth ≤ dataDepth)
    (hsteps : data.chars.length ≤ steps) (hrest : endsNumber rest = true) :
    readData steps (data.chars ++ rest) = some (data, rest) := by
  rw [readData, reads_readValue hplain hdepth hsteps rest hrest]
  rfl

/-- A member is read as the field that its key names. -/
theorem readMember_quote_append (steps : Nat) (fields : Fields) (key : String) (cs : List Char) :
    readMember steps fields ((quote key).toList ++ ':' :: cs) = readField steps key fields cs := by
  rw [readMember, readText_quote_append]
  rfl

/-- The key of a session is read into its field, if it was not read before. -/
theorem readField_invokeKey {steps : Nat} {fields : Fields} (h : fields.invokeKey = none)
    (key : String) (rest : List Char) :
    readField steps "invokeKey" fields ((quote key).toList ++ rest) =
      some ({ fields with invokeKey := some key }, rest) := by
  simp [readField, h, readText_quote_append]

theorem readField_nspace {steps : Nat} {fields : Fields} (h : fields.nspace = none)
    (nspace : String) (rest : List Char) :
    readField steps "ns" fields ((quote nspace).toList ++ rest) =
      some ({ fields with nspace := some (some nspace) }, rest) := by
  simp [readField, h, readNspace_quote_append]

theorem readField_data {steps : Nat} {fields : Fields} (h : fields.data = none) {data : Value}
    {rest : List Char} (hread : readData steps (data.chars ++ rest) = some (data, rest)) :
    readField steps "data" fields (data.chars ++ rest) =
      some ({ fields with data := some data }, rest) := by
  simp [readField, h, hread]

/-! ## Envelopes -/

/-- An envelope with any value as its data. -/
def carrying (invokeKey nspace : String) (data : Value) : String :=
  "\x7b\"invokeKey\":" ++ quote invokeKey ++ ",\"ns\":" ++ quote nspace ++ ",\"data\":" ++
    data.render ++ "\x7d"

/-- A message is written as a string value. -/
theorem written_eq_carrying (invokeKey nspace message : String) :
    written invokeKey nspace message = carrying invokeKey nspace (.string message) := by
  have hrender : (Value.string message).render = quote message := by
    rw [← String.toList_inj, Value.toList_render, Value.chars]
  unfold written carrying
  rw [hrender]

/-- The text of an envelope, member by member. -/
theorem toList_carrying (invokeKey nspace : String) (data : Value) :
    (carrying invokeKey nspace data).toList =
      '{' :: ((quote "invokeKey").toList ++ ':' :: ((quote invokeKey).toList ++
        ',' :: ((quote "ns").toList ++ ':' :: ((quote nspace).toList ++
          ',' :: ((quote "data").toList ++ ':' :: (data.chars ++ ['}'])))))) := by
  have hkey : "\x7b\"invokeKey\":".toList = '{' :: ((quote "invokeKey").toList ++ [':']) := by
    decide
  have hns : ",\"ns\":".toList = ',' :: ((quote "ns").toList ++ [':']) := by decide
  have hdata : ",\"data\":".toList = ',' :: ((quote "data").toList ++ [':']) := by decide
  have hend : "\x7d".toList = ['}'] := by decide
  unfold carrying
  simp only [String.toList_append, Value.toList_render, hkey, hns, hdata, hend, List.cons_append,
    List.append_assoc, List.nil_append]

/-- The first member of an object is read as the field that its key names. -/
theorem readMembers_quote_append (steps : Nat) (key : String) (cs : List Char) :
    readMembers steps ((quote key).toList ++ ':' :: cs) =
      (readField steps key ⟨none, none, none⟩ cs).bind fun read =>
        moreMembers steps steps read.1 read.2 := by
  have hskip : skipSpace ((quote key).toList ++ ':' :: cs) = (quote key).toList ++ ':' :: cs := by
    rw [skipSpace_quote_append, toList_quote_append]
  have hread := readMember_quote_append steps ⟨none, none, none⟩ key cs
  unfold readMembers
  rw [hskip]
  rw [toList_quote_append] at hread ⊢
  -- a quote is not the closing brace
  simp only [List.cons.injEq, Char.reduceEq, false_and, imp_self, implies_true, hread]
  cases readField steps key ⟨none, none, none⟩ cs <;> rfl

/-- A later member is read as the field that its key names. -/
theorem moreMembers_quote_append (steps left : Nat) (fields : Fields) (key : String)
    (cs : List Char) :
    moreMembers steps (left + 1) fields (',' :: ((quote key).toList ++ ':' :: cs)) =
      (readField steps key fields cs).bind fun read =>
        moreMembers steps left read.1 read.2 := by
  have hread := readMember_quote_append steps fields key cs
  have hskip : skipSpace (',' :: ((quote key).toList ++ ':' :: cs)) =
      ',' :: ((quote key).toList ++ ':' :: cs) := skipSpace_cons_of_not (by decide) _
  simp only [moreMembers, hskip, hread]
  cases readField steps key fields cs <;> rfl

/-- The members of an envelope are read in three steps, and the closing brace in a fourth. -/
theorem readMembers_carrying {steps : Nat} (invokeKey nspace : String) {data : Value}
    (hread : readData (steps + 3) (data.chars ++ ['}']) = some (data, ['}'])) :
    readMembers (steps + 3)
        ((quote "invokeKey").toList ++ ':' :: ((quote invokeKey).toList ++
          ',' :: ((quote "ns").toList ++ ':' :: ((quote nspace).toList ++
            ',' :: ((quote "data").toList ++ ':' :: (data.chars ++ ['}'])))))) =
      some (⟨some invokeKey, some (some nspace), some data⟩, []) := by
  rw [readMembers_quote_append, readField_invokeKey rfl, Option.bind_some,
    moreMembers_quote_append, readField_nspace rfl, Option.bind_some,
    moreMembers_quote_append, readField_data rfl hread, Option.bind_some]
  rfl

/-- An envelope is read back with its marks and its data, when the data is a plain value that is not
nested too deep. -/
theorem parse?_carrying (invokeKey nspace : String) {data : Value} (hplain : data.isPlain = true)
    (hdepth : data.depth ≤ dataDepth) :
    parse? (carrying invokeKey nspace data) = some ⟨invokeKey, some nspace, data⟩ := by
  have htext := toList_carrying invokeKey nspace data
  -- the loops of the reader may go as far as the text is long, which is more than they need
  have hlength : data.chars.length + 3 ≤ (carrying invokeKey nspace data).length := by
    rw [← String.length_toList, htext]
    simp only [List.length_cons, List.length_append, List.length_nil]
    omega
  obtain ⟨more, hmore⟩ := Nat.exists_eq_add_of_le' hlength
  rw [← Nat.add_assoc] at hmore
  have hdata : readData (more + data.chars.length + 3) (data.chars ++ ['}']) = some (data, ['}']) :=
    readData_chars_append hplain hdepth (by omega) rfl
  have hread : read (more + data.chars.length + 3) (carrying invokeKey nspace data).toList =
      some (⟨invokeKey, some nspace, data⟩, []) := by
    rw [htext, read, skipSpace_cons_of_not (by decide)]
    simp only [readMembers_carrying invokeKey nspace hdata]
    rfl
  rw [parse?, hmore, hread]
  rfl

/-- A written envelope is read back with its marks, and with the message as its data. -/
theorem parse?_written (invokeKey nspace message : String) :
    parse? (written invokeKey nspace message) =
      some ⟨invokeKey, some nspace, .string message⟩ := by
  rw [written_eq_carrying]
  exact parse?_carrying invokeKey nspace rfl (Nat.zero_le dataDepth)

end Envelope

/-! ## Postings -/

namespace Session

/-- What the inner half of a bridge posts for a message of a frame. -/
def posting (session : Session) (frame : Frame) (message : String) : Posting :=
  ⟨handlerName, Envelope.written session.invokeKey session.nspace message, frame⟩

variable {session : Session} {frame : Frame} {message : String} {envelope : Envelope}

/-- In its own session a message from an allowed frame is admissible when its envelope is not too
long and it is JSON itself. -/
theorem admissible_posting_iff (hinst : session.installed = true)
    (horigin : Origin.isAllowed (frame.origin?.getD opaqueOrigin) session.allowedOrigins = true) :
    (session.posting frame message).Admissible session envelope ↔
      envelope = ⟨session.invokeKey, some session.nspace, .string message⟩ ∧
        (session.posting frame message).body.utf8ByteSize ≤ maxPostingSize ∧
        Json.isJson message = true := by
  have hparse : Envelope.parse? (session.posting frame message).body =
      some ⟨session.invokeKey, some session.nspace, .string message⟩ :=
    Envelope.parse?_written session.invokeKey session.nspace message
  constructor
  · intro h
    have henvelope : envelope = ⟨session.invokeKey, some session.nspace, .string message⟩ :=
      Option.some.inj (h.body_eq.symm.trans hparse)
    have hjson : Json.isJson envelope.payload = true := h.payload_isJson
    rw [henvelope] at hjson
    exact ⟨henvelope, h.size_le, hjson⟩
  · rintro ⟨rfl, hsize, hjson⟩
    exact {
      installed := hinst
      handler_eq := rfl
      size_le := hsize
      origin_allowed := horigin
      body_eq := hparse
      invokeKey_eq := rfl
      nspace_eq := fun nspace h => (Option.some.inj h).symm
      payload_isJson := hjson }

end Session

end PageBridge

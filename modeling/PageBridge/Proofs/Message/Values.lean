import PageBridge.Proofs.Json.Reader
import PageBridge.Proofs.Message.Written

/-!
# Messages that are values

The data of an envelope need not be a text: any other value is handed on as its compact text.  The
reader of envelopes takes the data from the reader of values (`Fields.Held` is what its loops keep), so
the data is sound and its compact text is read back.  Hence `Message.unwrap` refuses no payload but a
text that is not JSON.
-/

namespace PageBridge

namespace Envelope

open PageBridge.Json

variable {steps : Nat} {cs rest : List Char}

/-! ## Where the data comes from -/

/-- The data that was read so far came from the reader of values. -/
def Fields.Held (steps : Nat) (fields : Fields) : Prop :=
  ∀ v, fields.data = some v → Gives (readValue steps dataDepth) v

/-- What is read as data is what the reader of values gives. -/
theorem gives_readData {v : Value} (h : readData steps cs = some (v, rest)) :
    Gives (readValue steps dataDepth) v := by
  rw [readData] at h
  cases hread : readValue steps dataDepth cs with
  | error fault =>
      rw [hread] at h
      cases h
  | ok result =>
      rw [hread] at h
      cases h
      exact ⟨_, _, hread⟩

/-- Reading a member keeps where the data came from. -/
theorem held_readField {key : String} {fields after : Fields} (hheld : fields.Held steps)
    (h : readField steps key fields cs = some (after, rest)) : after.Held steps := by
  rw [readField] at h
  -- of the four kinds of members only the third one touches the data
  split_ifs at h
  · obtain ⟨⟨text, left⟩, -, hafter⟩ := Option.map_eq_some_iff.mp h
    cases hafter
    exact hheld
  · obtain ⟨⟨nspace, left⟩, -, hafter⟩ := Option.map_eq_some_iff.mp h
    cases hafter
    exact hheld
  · obtain ⟨⟨data, left⟩, hdata, hafter⟩ := Option.map_eq_some_iff.mp h
    cases hafter
    rintro v hv
    cases hv
    exact gives_readData hdata
  · obtain ⟨left, -, hafter⟩ := Option.map_eq_some_iff.mp h
    cases hafter
    exact hheld

/-- Reading a key and its member keeps where the data came from. -/
theorem held_readMember {fields after : Fields} (hheld : fields.Held steps)
    (h : readMember steps fields cs = some (after, rest)) : after.Held steps := by
  obtain ⟨⟨key, left⟩, -, h⟩ := Option.bind_eq_some_iff.mp h
  dsimp only at h
  split at h
  · exact held_readField hheld h
  · cases h

/-- The loop over the members keeps where the data came from. -/
theorem held_moreMembers {left : Nat} {fields after : Fields} (hheld : fields.Held steps)
    (h : moreMembers steps left fields cs = some (after, rest)) : after.Held steps := by
  induction left generalizing fields cs with
  | zero => cases h
  | succ left ih =>
      rw [moreMembers] at h
      split at h
      · cases h
        exact hheld
      · split at h
        · next hmember => exact ih (held_readMember hheld hmember) h
        · cases h
      · cases h

/-- However the members of an envelope are ordered and whatever else is among them, the data comes
from the reader of values. -/
theorem held_readMembers {fields : Fields} (h : readMembers steps cs = some (fields, rest)) :
    fields.Held steps := by
  have hnone : Fields.Held steps ⟨none, none, none⟩ := fun v hv => nomatch hv
  rw [readMembers] at h
  split at h
  · cases h
    exact hnone
  · split at h
    · next hmember => exact held_moreMembers (held_readMember hnone hmember) h
    · cases h

/-- The data of an envelope that is written as an array comes from the reader of values. -/
theorem gives_readItems {envelope : Envelope} (h : readItems steps cs = some (envelope, rest)) :
    Gives (readValue steps dataDepth) envelope.data := by
  simp only [readItems, Option.bind_eq_bind, Option.bind_eq_some_iff] at h
  -- five readers in a row, of which the last one reads the data
  obtain ⟨⟨invokeKey, _⟩, -, _, -, ⟨nspace, _⟩, -, _, -, ⟨data, left⟩, hdata, h⟩ := h
  split at h
  · cases h
    exact gives_readData hdata
  · cases h

/-- The data of an envelope comes from the reader of values, in either form of the envelope. -/
theorem gives_read {envelope : Envelope} (h : read steps cs = some (envelope, rest)) :
    Gives (readValue steps dataDepth) envelope.data := by
  rw [read] at h
  split at h
  · obtain ⟨⟨fields, left⟩, hfields, h⟩ := Option.bind_eq_some_iff.mp h
    obtain ⟨opened, hopened, h⟩ := Option.map_eq_some_iff.mp h
    cases h
    simp only [ofFields?, Option.bind_eq_bind, Option.bind_eq_some_iff] at hopened
    obtain ⟨invokeKey, -, data, hdata, hopened⟩ := hopened
    cases hopened
    exact held_readMembers hfields data hdata
  · exact gives_readItems h
  · cases h

/-- The data of an envelope is not nested too deep, and it is plain if it holds no double. -/
theorem sound_of_parse? {text : String} {envelope : Envelope} (h : parse? text = some envelope) :
    Sound dataDepth envelope.data := by
  rw [parse?] at h
  split at h
  · next hread =>
      split_ifs at h
      cases h
      obtain ⟨cs, rest, hdata⟩ := gives_read hread
      exact sound_of_readValue hdata
  · cases h

/-! ## The payload -/

variable {envelope : Envelope}

/-- Data that holds no double is read back from its compact text. -/
theorem parse_render_data {text : String} (h : parse? text = some envelope)
    (hintegral : envelope.data.isIntegral = true) :
    Json.parse envelope.data.render = .ok envelope.data := by
  have hsound := sound_of_parse? h
  -- the data lies one level inside the envelope, so on its own it is well within the limit
  have hdepth : dataDepth ≤ depthLimit := Nat.sub_le depthLimit 1
  exact parse_render (hsound.isPlain hintegral) (Nat.le_trans hsound.depth_le hdepth)

/-- Data that is no text is handed on as its compact text. -/
theorem payload_of_text?_eq_none (h : envelope.data.text? = none) :
    envelope.payload = envelope.data.render := by
  rw [payload, h, Option.getD_none]

/-- A payload that is no JSON is a text: the compact text of any other data is JSON. -/
theorem exists_of_not_isJson {text : String} (h : parse? text = some envelope)
    (hintegral : envelope.data.isIntegral = true) (hjson : isJson envelope.payload = false) :
    ∃ s, envelope.data = .string s ∧ isJson s = false := by
  cases htext : envelope.data.text? with
  | none =>
      rw [payload_of_text?_eq_none htext, isJson, parse_render_data h hintegral] at hjson
      cases hjson
  | some s =>
      have hdata : envelope.data = .string s := by
        cases hvalue : envelope.data with
        | string t =>
            rw [hvalue] at htext
            rw [Option.some.inj htext]
        | null | bool | number | array | object =>
            rw [hvalue] at htext
            cases htext
      rw [payload, htext] at hjson
      exact ⟨s, hdata, hjson⟩

end Envelope

/-- A session never refuses the marks of an envelope for its payload. -/
theorem Session.check_ne_invalidPayload (session : Session) (envelope : Envelope) :
    session.check envelope ≠ .error .invalidPayload := by
  rw [Session.check]
  split_ifs <;> simp

namespace Message

open PageBridge.Json

variable {session : Session} {message : Message} {envelope : Envelope}

/-- A session that lets an envelope through hands on its payload, or refuses it for not being JSON. -/
theorem unwrap_of_check (hparse : Envelope.parse? message.text = some envelope)
    (horigin : Origin.isAllowed message.origin session.allowedOrigins = true)
    (hcheck : session.check envelope = .ok ()) :
    message.unwrap session =
      if isJson envelope.payload then .ok { message with text := envelope.payload }
      else .error .invalidPayload := by
  rw [unwrap, hparse]
  simp only [horigin, hcheck, Bool.not_true, Bool.false_eq_true, if_false]

/-- A message is refused for its payload only if that is no JSON. -/
theorem not_isJson_of_unwrap (hparse : Envelope.parse? message.text = some envelope)
    (h : message.unwrap session = .error .invalidPayload) : isJson envelope.payload = false := by
  cases horigin : Origin.isAllowed message.origin session.allowedOrigins with
  | false =>
      rw [unwrap, hparse] at h
      simp [horigin] at h
  | true =>
      cases hcheck : session.check envelope with
      | error rejection =>
          rw [unwrap, hparse] at h
          simp only [horigin, hcheck, Bool.not_true, Bool.false_eq_true, if_false] at h
          rw [Except.error.inj h] at hcheck
          exact absurd hcheck (session.check_ne_invalidPayload envelope)
      | ok =>
          rw [unwrap_of_check hparse horigin hcheck] at h
          split_ifs at h with hjson
          exact Bool.eq_false_iff.mpr hjson

/-- Data that is no text and holds no double goes through unaltered: an envelope that a session lets
through is never refused for it, and its payload is read as the very value.  The data has its keys in
order, each with the value that it has last in the text, and its numbers are all the integers that 64
bits hold.  What a session refuses as a payload is a text that is no JSON. -/
theorem value_data_is_kept (session : Session) (message : Message) {envelope : Envelope}
    (hparse : Envelope.parse? message.text = some envelope)
    (hintegral : envelope.data.isIntegral = true) :
    (envelope.data.text? = none →
      Origin.isAllowed message.origin session.allowedOrigins = true →
      session.check envelope = .ok () →
      message.unwrap session = .ok { message with text := envelope.data.render }) ∧
    Json.parse envelope.data.render = .ok envelope.data ∧
    envelope.data.isPlain = true ∧ envelope.data.depth ≤ Envelope.dataDepth ∧
    (∀ steps depth cs members rest,
      readMembers (readValue steps depth) steps cs = .ok (members, rest) →
      readValue steps (depth + 1) ('{' :: cs) = .ok (.ofMembers members, rest) ∧
        ∀ key, (Value.ofMembers members).get? key =
          (members.reverse.find? (·.1 = key)).map (·.2)) ∧
    (∀ n : Int, -(twoTo 63 : Nat) ≤ n → n < (twoTo 64 : Nat) →
      Json.parse (Value.number (.int n)).render = .ok (.number (.int n))) ∧
    (message.unwrap session = .error .invalidPayload →
      ∃ s, envelope.data = .string s ∧ isJson s = false) := by
  have hsound := Envelope.sound_of_parse? hparse
  have hread := Envelope.parse_render_data hparse hintegral
  refine ⟨fun htext horigin hcheck => ?_, hread, hsound.isPlain hintegral, hsound.depth_le,
    fun steps depth cs members rest hmembers => ⟨?_, Value.get?_ofMembers members⟩,
    fun n hlower hupper => ?_, fun h =>
      Envelope.exists_of_not_isJson hparse hintegral (not_isJson_of_unwrap hparse h)⟩
  -- the payload is the compact text of the data, which is read back and so is JSON
  · have hpayload := Envelope.payload_of_text?_eq_none htext
    have hjson : isJson envelope.payload = true := by
      rw [hpayload, isJson, hread]
      rfl
    rw [unwrap_of_check hparse horigin hcheck, if_pos hjson, hpayload]
  · rw [readValue, readWith_brace, hmembers]
    rfl
  · have hfits : (Number.int n).fitsWord = true := by
      rw [Number.fitsWord, decide_eq_true hlower, decide_eq_true hupper, Bool.and_self]
    exact parse_render hfits (Nat.zero_le depthLimit)

/-- The greatest and the least integer go through in an array that is the member of an object. -/
theorem value_data_is_kept_bounds :
    let data := Value.object [("a", .array [.number (.int 18446744073709551615),
      .number (.int (-9223372036854775808))]), ("b", .string "\n")]
    let message : Message := ⟨Envelope.carrying "k" "app" data, "https://a.example", true⟩
    message.unwrap ⟨true, "app", "k", ["*"]⟩ = .ok { message with text :=
      "\x7b\"a\":[18446744073709551615,-9223372036854775808],\"b\":\"\\n\"\x7d" } := by
  intro data message
  have hparse : Envelope.parse? message.text = some ⟨"k", some "app", data⟩ :=
    Envelope.parse?_carrying "k" "app" (by decide) (by decide)
  have hrender : data.render =
      "\x7b\"a\":[18446744073709551615,-9223372036854775808],\"b\":\"\\n\"\x7d" := by
    decide
  have hkept := (value_data_is_kept ⟨true, "app", "k", ["*"]⟩ message hparse (by decide)).1 rfl
    (by decide) rfl
  rw [hkept, hrender]

end Message

end PageBridge

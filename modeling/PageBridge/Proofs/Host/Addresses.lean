import PageBridge.Proofs.Host.Run
import PageBridge.Proofs.Unicode.LowerCase

/-!
# Addresses that are loaded

An address is brought into lower case with the letters of all scripts before its start is looked at,
which changes lengths and makes ASCII letters of others.  None of this shows: `isLoadable_iff` says that
the start is compared character by character, and that nothing but its own ASCII letters may differ, in
case alone.  So a host queues the loading of an address under one of three schemes, and whatever happens
to a host, nothing else waits in it to be loaded (`WaitsLoadable.run`).
-/

namespace PageBridge.Host

open PageBridge.Text

/-! ## Starts in either case -/

/-- Two characters are the same, or they are one ASCII letter, in either case. -/
def SameLetter (c d : Char) : Prop :=
  c = d ∨ c.isAlpha = true ∧ d.isAlpha = true ∧ c.toLower = d.toLower

instance : DecidableRel SameLetter := fun _ _ => inferInstanceAs (Decidable (_ ∨ _))

/-- The first characters of an address are those of a start, letters in either case. -/
def BeginsWith (address start : String) : Prop :=
  List.Forall₂ SameLetter start.toList (address.toList.take start.toList.length)

instance : DecidableRel BeginsWith := fun _ _ => inferInstanceAs (Decidable (List.Forall₂ ..))

/-- The same letter in the other case is an ASCII character, too. -/
theorem SameLetter.toNat_lt {c d : Char} (h : SameLetter c d) (hc : c.toNat < 0x80) :
    d.toNat < 0x80 := by
  rcases h with rfl | ⟨-, hd, -⟩
  · exact hc
  · exact toNat_lt_of_isAlpha hd

/-- A character in lower case is the same letter as those that become this character. -/
theorem sameLetter_iff {c d : Char} (hc : c.toLower = c) : SameLetter c d ↔ c = d.toLower := by
  constructor
  · rintro (rfl | ⟨-, -, hsame⟩)
    · exact hc.symm
    · rw [← hsame, hc]
  · intro h
    -- a character that becomes another one is a capital letter
    by_cases hupper : d.isUpper = true
    · have hd : d.isAlpha = true := by rw [Char.isAlpha, hupper, Bool.true_or]
      refine .inr ⟨?_, hd, by rw [hc, h]⟩
      rw [h, Char.isAlpha_toLower_eq_isAlpha, hd]
    · exact .inl (h.trans (Char.toLower_eq_of_not_isUpper hupper))

/-- Letter by letter, a start in lower case is what the other characters become. -/
theorem forall₂_sameLetter_iff {start lead : List Char} (hstart : ∀ c ∈ start, c.toLower = c) :
    List.Forall₂ SameLetter start lead ↔ start = lead.map Char.toLower := by
  rw [← List.forall₂_eq_eq_eq, List.forall₂_map_right_iff]
  induction start generalizing lead with
  | nil => simp
  | cons c start ih =>
      cases lead with
      | nil => simp
      | cons d lead =>
          rw [List.forall₂_cons, List.forall₂_cons, sameLetter_iff (hstart c List.mem_cons_self),
            ih fun e he => hstart e (List.mem_cons_of_mem c he)]

/-- A start in lower case is compared with the letters of ASCII in lower case. -/
theorem beginsWith_iff {start : String} (hstart : ∀ c ∈ start.toList, c.toLower = c)
    (address : String) :
    BeginsWith address start ↔ start.toList <+: (lowerAscii address).toList := by
  rw [BeginsWith, forall₂_sameLetter_iff hstart, toList_lowerAscii, List.map_take,
    List.prefix_iff_eq_take]

/-- No start that is loaded has a k in it or ends in an i. -/
theorem unmistakable_of_mem {start : String} (h : start ∈ loadableStarts) :
    Unicode.Unmistakable start.toList := by
  simp only [loadableStarts, List.mem_cons, List.not_mem_nil, or_false] at h
  rcases h with rfl | rfl | rfl
  all_goals exact ⟨by simp, by simp, by simp⟩

/-- The starts that are loaded are written in lower case. -/
theorem toLower_of_mem {start : String} (h : start ∈ loadableStarts) :
    ∀ c ∈ start.toList, c.toLower = c := by
  simp only [loadableStarts, List.mem_cons, List.not_mem_nil, or_false] at h
  rcases h with rfl | rfl | rfl
  all_goals simp

/-- An address under one of three schemes. -/
def Loadable (address : String) : Prop :=
  ∃ start ∈ ["http://", "https://", "file://"], BeginsWith address start

instance : DecidablePred Loadable := fun _ => inferInstanceAs (Decidable (∃ start ∈ _, _))

/-- An address is let through when it is under one of the three schemes. -/
theorem isLoadable_iff (address : String) : isLoadable address = true ↔ Loadable address := by
  simp only [isLoadable, List.any_eq_true, List.isPrefixOf_iff_prefix]
  refine exists_congr fun start => and_congr_right fun hstart => ?_
  rw [Unicode.isPrefix_lower_iff (unmistakable_of_mem hstart), beginsWith_iff (toLower_of_mem hstart)]

example : isLoadable "FILE://\u0130" = true := by
  rw [isLoadable_iff]
  decide

example : isLoadable "f\u0130le:///" = false := by
  rw [Bool.eq_false_iff, Ne, isLoadable_iff]
  decide

/-- The characters that are read as a start are all ASCII characters. -/
theorem toNat_lt_of_beginsWith {address start : String} (hstart : start ∈ loadableStarts)
    (hbegins : BeginsWith address start) :
    ∀ c ∈ address.toList.take start.toList.length, c.toNat < 0x80 := by
  have hascii : ∀ c ∈ start.toList, c.toNat < 0x80 := (unmistakable_of_mem hstart).ascii
  rw [BeginsWith] at hbegins
  -- the two lists are walked together, wherever they come from
  generalize address.toList.take start.toList.length = lead at hbegins ⊢
  generalize start.toList = letters at hascii hbegins
  induction hbegins with
  | nil => simp
  | cons hsame _ ih =>
      rw [List.forall_mem_cons] at hascii ⊢
      exact ⟨hsame.toNat_lt hascii.1, ih hascii.2⟩

/-! ## Loading -/

section Load

variable (files : File.Disk) (h : Host) (id : ViewId) {url : String}

/-- An address that may be loaded is queued without the white space around it, in its own case. -/
theorem performOn_loadUrl_of_loadable (hurl : Loadable (trim url)) :
    h.performOn files id (.loadUrl url) = (.ok .done, h.push id (.loadUrl (trim url))) := by
  rw [performOn, loadUrl, if_pos ((isLoadable_iff _).mpr hurl), queue]

/-- Any other address is refused before anything is queued. -/
theorem performOn_loadUrl_of_not_loadable (hurl : ¬ Loadable (trim url)) :
    h.performOn files id (.loadUrl url) = (.error .blockedUrl, h) := by
  rw [performOn, loadUrl, if_neg fun hload => hurl ((isLoadable_iff _).mp hload)]

end Load

/-- An address is loaded when it begins, without the white space around it, with one of three starts,
whose ASCII letters may be in either case and all else of which is compared as it is: no other character
passes for one of theirs.  Then one command is queued, with the address in its own case; otherwise the
host stays as it is. -/
theorem loadUrl_admits_three_schemes (files : File.Disk) (h : Host) (id : ViewId) (url : String) :
    TrimsTo url (trim url) ∧
      ((∃ reply, (h.perform files (.onView id (.loadUrl url))).1 = .ok reply) ↔
        Loadable (trim url)) ∧
      (Loadable (trim url) → h.perform files (.onView id (.loadUrl url)) =
        (.ok .done, { h with commands := h.commands.push (id, .loadUrl (trim url)) })) ∧
      (¬ Loadable (trim url) → h.perform files (.onView id (.loadUrl url)) =
        (.error .blockedUrl, h)) ∧
      ∀ start ∈ ["http://", "https://", "file://"], BeginsWith (trim url) start →
        ∀ c ∈ (trim url).toList.take start.toList.length, c.toNat < 0x80 := by
  rw [perform]
  refine ⟨trimsTo_trim url, ⟨?_, fun hurl => ⟨.done, ?_⟩⟩,
    fun hurl => performOn_loadUrl_of_loadable files h id hurl,
    fun hurl => performOn_loadUrl_of_not_loadable files h id hurl,
    fun start hstart => toNat_lt_of_beginsWith hstart⟩
  · rintro ⟨reply, hreply⟩
    by_contra hurl
    rw [performOn_loadUrl_of_not_loadable files h id hurl] at hreply
    cases hreply
  · rw [performOn_loadUrl_of_loadable files h id hurl]

/-! ## What waits to be loaded -/

/-- The address that a command loads. -/
def Command.address? : Command → Option String
  | .loadUrl address => some address
  | _ => none

/-- All addresses that wait in a host to be loaded are under one of the three schemes. -/
def WaitsLoadable (h : Host) : Prop :=
  ∀ address ∈ h.commands.toList.filterMap (·.2.address?), Loadable address

namespace WaitsLoadable

variable {h : Host}

theorem of_commands_eq_empty (hcommands : h.commands = #[]) : WaitsLoadable h := by
  simp [WaitsLoadable, hcommands]

/-- Another command leaves nothing else waiting than what it loads itself. -/
theorem push (hwaits : WaitsLoadable h) (id : ViewId) {command : Command}
    (hcommand : ∀ address ∈ command.address?, Loadable address) :
    WaitsLoadable (h.push id command) := by
  intro address hmem
  rw [Host.push, Array.toList_push, List.filterMap_append, List.mem_append] at hmem
  rcases hmem with hold | hnew
  · exact hwaits address hold
  · exact hcommand address (by simpa using hnew)

/-- Most commands load no address at all. -/
theorem push_of_none (hwaits : WaitsLoadable h) (id : ViewId) {command : Command}
    (hcommand : command.address? = none) : WaitsLoadable (h.push id command) :=
  hwaits.push id fun address hmem => by
    rw [hcommand] at hmem
    cases hmem

/-- Loading is the only action that queues such a command, and it looks at the address before. -/
theorem performOn (hwaits : WaitsLoadable h) (files : File.Disk) (id : ViewId)
    (action : ViewAction) : WaitsLoadable (h.performOn files id action).2 := by
  cases action with
  | loadUrl url =>
      by_cases hurl : Loadable (trim url)
      · rw [performOn_loadUrl_of_loadable files h id hurl]
        exact hwaits.push id fun address hmem => Option.mem_some.mp hmem ▸ hurl
      · rw [performOn_loadUrl_of_not_loadable files h id hurl]
        exact hwaits
  | install nspace origins key channelPath =>
      rw [Host.performOn, install]
      split
      · exact hwaits
      · exact hwaits.push_of_none id rfl
  | setScripts entries =>
      rw [Host.performOn, setScripts]
      split
      · exact hwaits
      · exact hwaits.push_of_none id rfl
  | send text =>
      rw [Host.performOn, send]
      split
      · exact hwaits.push_of_none id rfl
      · exact hwaits
  | setNspace nspace =>
      rw [Host.performOn, setNspace]
      split <;> exact hwaits
  | getNspace | listen => exact hwaits
  | post | run | updateOrigins | removeScripts | loadHtml | reload | place | setVisible | close
  | drop => exact hwaits.push_of_none id rfl

/-- A new view loads nothing yet, and a pump leaves nothing waiting. -/
theorem perform (hwaits : WaitsLoadable h) (files : File.Disk) (action : Action) :
    WaitsLoadable (h.perform files action).2 := by
  cases action with
  | start =>
      rw [Host.perform, start_eq]
      exact hwaits
  | pump =>
      cases hready : h.ready with
      | false =>
          rw [Host.perform, pump_of_not_ready hready]
          exact hwaits
      | true =>
          cases hplatform : h.hasPlatform with
          | false =>
              rw [Host.perform, pump_of_no_platform hready hplatform]
              exact of_commands_eq_empty rfl
          | true =>
              rw [Host.perform, pump_eq hready hplatform, pumpWith_eq]
              exact of_commands_eq_empty rfl
  | create options =>
      rcases h.create_cases options with ⟨e, hfails⟩ | ⟨-, -, hdoes⟩
      · rw [Host.perform, hfails]
        exact hwaits
      · rw [Host.perform, hdoes]
        exact hwaits.push_of_none h.nextId rfl
  | onView id action => exact hwaits.performOn files id action

/-- What arrives from engines is no command. -/
theorem after (hwaits : WaitsLoadable h) (files : File.Disk) (happening : Happening) :
    WaitsLoadable (h.after files happening) := by
  cases happening with
  | act action => exact hwaits.perform files action
  | arrive arrival => exact hwaits

/-- Whatever happens to a host, nothing else ever waits in it to be loaded. -/
theorem run (hwaits : WaitsLoadable h) (files : File.Disk) (happenings : List Happening) :
    WaitsLoadable (h.run files happenings) := by
  induction happenings generalizing h with
  | nil => exact hwaits
  | cons happening happenings ih => exact ih (hwaits.after files happening)

end WaitsLoadable

end PageBridge.Host

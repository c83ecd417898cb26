import PageBridge.Proofs.Bridge.Run

/-!
# What an observer of a bridge knows

An observer knows nothing of a page but what the bridge reports: that a property has a new value.
`Navigation.Observed` is this knowledge, and `observe` gathers it from the effects of a bridge.  Each
report takes the observer from what is known of one navigation to what is known of another
(`Tells`), also in the middle of a step, where the other navigation is one that the bridge passes
through.  A navigation is never loading and loaded at once, so neither is what is known of it.
`reports_mirror_navigation` shows that the observer knows the page as it is after every run, and that
no report is late, repeated or out of order.
-/

namespace PageBridge

namespace Navigation

/-- What is known of a page. -/
structure Observed where
  loading : Bool
  loaded : Bool
  url : String
deriving DecidableEq, Repr

namespace Observed

/-- What is known before there is any report. -/
def start : Observed := ⟨false, false, ""⟩

/-- What is known after the report of a property. -/
def see (known : Observed) : Change → Observed
  | .loading on => { known with loading := on }
  | .loaded on => { known with loaded := on }
  | .url url => { known with url }

/-- What is known after an effect. -/
def hear (known : Observed) : Effect → Observed
  | .changed change => known.see change
  | _ => known

end Observed

/-- What there is to know of a page. -/
def observed (n : Navigation) : Observed := ⟨n.isLoading, n.isLoaded, n.url⟩

/-- A page has one state, so it is never known to load and to be loaded at once. -/
theorem not_loading_and_loaded (n : Navigation) :
    ¬ (n.observed.loading = true ∧ n.observed.loaded = true) := by
  rintro ⟨hloading, hloaded⟩
  have hstate : n.state = .loading := eq_of_beq hloading
  rw [observed, isLoaded, hstate] at hloaded
  cases hloaded

end Navigation

open Navigation (Change Observed Step)

/-- What is known after effects, in their order. -/
def observe (effects : List Effect) : Observed :=
  effects.foldl Observed.hear .start

theorem observe_append (before effects : List Effect) :
    observe (before ++ effects) = effects.foldl Observed.hear (observe before) :=
  List.foldl_append

/-- A report is due after effects: it is news, it does not make the page loading and loaded, it says
that the page is loaded right after the page was said to be loading no more, and it does not take the
URL away. -/
structure Due (before : List Effect) (change : Change) : Prop where
  news : (observe before).see change ≠ observe before
  exclusive : ¬ (((observe before).see change).loading = true ∧
    ((observe before).see change).loaded = true)
  loaded_follows : change = .loaded true → ∃ earlier, before = earlier ++ [.changed (.loading false)]
  url_stays : (observe before).url ≠ "" → ((observe before).see change).url ≠ ""

/-- All reports among effects are due when they come, after the effects before. -/
def AllDue (before effects : List Effect) : Prop :=
  ∀ earlier change later, effects = earlier ++ .changed change :: later →
    Due (before ++ earlier) change

/-- Effects take an observer from what there is to know of one navigation to another, by reports that
are due. -/
def Tells (n : Navigation) (effects : List Effect) (n' : Navigation) : Prop :=
  ∀ before, observe before = n.observed →
    observe (before ++ effects) = n'.observed ∧ AllDue before effects

/-! ## Reports one after another -/

variable {before effects more : List Effect} {n m k : Navigation} {change : Change}

/-- Reports that are due one part after the other are due as a whole. -/
theorem AllDue.append (h : AllDue before effects) (h' : AllDue (before ++ effects) more) :
    AllDue before (effects ++ more) := by
  intro earlier change later heq
  rcases List.append_eq_append_iff.mp heq with ⟨middle, rfl, hmore⟩ | ⟨middle, rfl, hlater⟩
  · -- the report is among the later effects
    rw [← List.append_assoc]
    exact h' middle change later hmore
  · -- the report is the first of the later effects, or among the earlier ones
    rcases List.cons_eq_append_iff.mp hlater with ⟨rfl, hmore⟩ | ⟨rest, rfl, -⟩
    · have hdue : Due (before ++ (earlier ++ []) ++ []) change := h' [] change later hmore
      rwa [List.append_nil, List.append_nil] at hdue
    · exact h earlier change rest rfl

/-- What follows a part of the effects is due after this part. -/
theorem AllDue.tail (h : AllDue before (effects ++ more)) : AllDue (before ++ effects) more := by
  intro earlier change later heq
  rw [List.append_assoc]
  exact h (effects ++ earlier) change later (by rw [heq, List.append_assoc])

/-- An effect that is a report is due if the report is. -/
theorem allDue_singleton (h : Due before change) : AllDue before [.changed change] := by
  intro earlier change' later heq
  rcases List.cons_eq_append_iff.mp heq with ⟨rfl, hcons⟩ | ⟨rest, rfl, hrest⟩
  · injection hcons with hchange
    injection hchange with hchange
    rw [hchange, List.append_nil]
    exact h
  · exact absurd hrest (by simp)

/-- A URL that is known stays known through reports that are due. -/
theorem AllDue.url_ne_empty (h : AllDue before effects) (hurl : (observe before).url ≠ "") :
    (observe (before ++ effects)).url ≠ "" := by
  induction effects generalizing before with
  | nil => rwa [List.append_nil]
  | cons effect effects ih =>
      -- only a report can take a URL away, and none that is due does
      have hstep : (observe (before ++ [effect])).url ≠ "" := by
        rw [observe_append]
        cases effect with
        | changed change =>
            have hdue : Due (before ++ []) change := h [] change effects rfl
            rw [List.append_nil] at hdue
            exact hdue.url_stays hurl
        | call | channel | received | result | completed => exact hurl
      have hall : AllDue before ([effect] ++ effects) := h
      have hrest : AllDue (before ++ [effect]) effects := hall.tail
      have hlast := ih hrest hstep
      rwa [List.append_assoc] at hlast

/-- Effects in a row tell of the navigation that the last of them tell of. -/
theorem Tells.append (h : Tells n effects m) (h' : Tells m more k) : Tells n (effects ++ more) k := by
  intro before hbefore
  obtain ⟨hmiddle, hdue⟩ := h before hbefore
  obtain ⟨hlast, hdue'⟩ := h' (before ++ effects) hmiddle
  rw [← List.append_assoc]
  exact ⟨hlast, hdue.append hdue'⟩

/-- Effects that report nothing tell nothing. -/
theorem tells_of_quiet (n : Navigation) (h : ∀ effect ∈ effects, ∀ change, effect ≠ .changed change) :
    Tells n effects n := by
  intro before hbefore
  constructor
  · rw [observe_append, hbefore]
    clear hbefore
    induction effects with
    | nil => rfl
    | cons effect effects ih =>
        have hhear : n.observed.hear effect = n.observed := by
          have hquiet := h effect List.mem_cons_self
          cases effect with
          | changed change => exact absurd rfl (hquiet change)
          | call | channel | received | result | completed => rfl
        rw [List.foldl_cons, hhear]
        exact ih fun later hlater => h later (List.mem_cons_of_mem effect hlater)
  · intro earlier change later heq
    have hmem : Effect.changed change ∈ effects := by
      rw [heq]
      exact List.mem_append_right earlier List.mem_cons_self
    exact absurd rfl (h _ hmem change)

/-- A report is due that takes the observer to another navigation. -/
theorem due_of_see (hbefore : observe before = n.observed) (hsee : n.observed.see change = m.observed)
    (hnews : m.observed ≠ n.observed)
    (hfollows : change = .loaded true → ∃ earlier, before = earlier ++ [.changed (.loading false)])
    (hurl : n.url ≠ "" → m.url ≠ "") : Due before change := by
  refine ⟨?_, ?_, hfollows, ?_⟩
  · rw [hbefore, hsee]
    exact hnews
  · rw [hbefore, hsee]
    exact m.not_loading_and_loaded
  · rw [hbefore, hsee]
    exact hurl

/-- One report, of anything but a page that is loaded. -/
theorem tells_singleton (hsee : n.observed.see change = m.observed) (hnews : m.observed ≠ n.observed)
    (hchange : change ≠ .loaded true) (hurl : n.url ≠ "" → m.url ≠ "") :
    Tells n [.changed change] m := by
  intro before hbefore
  constructor
  · rw [observe_append, hbefore]
    exact hsee
  · exact allDue_singleton
      (due_of_see hbefore hsee hnews (fun h => absurd h hchange) hurl)

/-! ## Steps of a navigation -/

namespace Navigation

/-- A move to another URL is told by one report, and nothing is said where the URL stays. -/
theorem tells_url (n : Navigation) (url : String) :
    Tells n ((n.urlChanges url).map .changed) { n with url := n.urlAfter url } := by
  rw [urlChanges, urlAfter]
  by_cases hmoves : n.moves url = true
  · rw [if_pos hmoves, if_pos hmoves]
    rw [moves, Bool.and_eq_true, Bool.not_eq_true', bne_iff_ne] at hmoves
    obtain ⟨hempty, hne⟩ := hmoves
    -- an empty URL is no move, so what is told is a URL
    have hurl : url ≠ "" := by
      rintro rfl
      cases hempty
    exact tells_singleton rfl (fun h => hne (congrArg Observed.url h)) (by simp) fun _ => hurl
  · rw [if_neg hmoves, if_neg hmoves]
    exact tells_of_quiet n fun _ hmem => by cases hmem

/-- A page that starts to load is said to be loaded no more before it is said to be loading. -/
theorem tells_start (n : Navigation) :
    Tells n ((startChanges n.state).map .changed) { n with state := .loading } := by
  obtain ⟨state, url⟩ := n
  have hidle : Tells ⟨.idle, url⟩ [.changed (.loading true)] ⟨.loading, url⟩ :=
    tells_singleton rfl (by simp [observed, isLoading, isLoaded]) (by simp) id
  cases state with
  | idle => exact hidle
  | loading => exact tells_of_quiet _ fun _ hmem => by cases hmem
  | loaded =>
      -- between the two reports the bridge passes through a page that is idle
      have hstop : Tells ⟨.loaded, url⟩ [.changed (.loaded false)] ⟨.idle, url⟩ :=
        tells_singleton rfl (by simp [observed, isLoading, isLoaded]) (by simp) id
      exact hstop.append hidle

/-- A page that was loading is said to be loading no more. -/
theorem tells_stop (url : String) :
    Tells ⟨.loading, url⟩ [.changed (.loading false)] ⟨.idle, url⟩ :=
  tells_singleton rfl (by simp [observed, isLoading, isLoaded]) (by simp) id

/-- A page that was loading is said to be loading no more, and then to be loaded. -/
theorem tells_finish (url : String) :
    Tells ⟨.loading, url⟩ [.changed (.loading false), .changed (.loaded true)] ⟨.loaded, url⟩ := by
  intro before hbefore
  obtain ⟨hidle, hstop⟩ := tells_stop url before hbefore
  -- the second report is not covered by `tells_singleton`: what it must follow is the first one
  have hload : Due (before ++ [.changed (.loading false)]) (.loaded true) :=
    due_of_see (m := ⟨.loaded, url⟩) hidle rfl (by simp [observed, isLoading, isLoaded])
      (fun _ => ⟨before, rfl⟩) id
  constructor
  · rw [observe_append, hbefore]
    rfl
  · exact hstop.append (allDue_singleton hload)

/-- The reports of a step tell of the navigation after it. -/
theorem tells_step (n : Navigation) (step : Step) :
    Tells n ((n.changes step).map .changed) (n.after step) := by
  cases step with
  | started url =>
      rw [changes, List.map_append]
      exact (n.tells_url url).append (tells_start { n with url := n.urlAfter url })
  | redirected url => exact n.tells_url url
  | finished url =>
      rw [changes, List.map_append, after]
      refine (n.tells_url url).append ?_
      by_cases hloading : n.isLoading = true
      · have hstate : n.state = .loading := eq_of_beq hloading
        rw [if_pos hloading, if_pos hloading, hstate]
        exact tells_finish (n.urlAfter url)
      · rw [if_neg hloading, if_neg hloading]
        exact tells_of_quiet _ fun _ hmem => by cases hmem
  | failed =>
      rw [changes, after]
      by_cases hloading : n.isLoading = true
      · obtain ⟨state, url⟩ := n
        obtain rfl : state = .loading := eq_of_beq hloading
        exact tells_stop url
      · rw [if_neg hloading, if_neg hloading]
        exact tells_of_quiet n fun _ hmem => by cases hmem

end Navigation

/-! ## Runs of a bridge -/

namespace Bridge

theorem ne_changed_of_mem_map_call {calls : List Call} {effect : Effect}
    (h : effect ∈ calls.map Effect.call) (change : Change) : effect ≠ .changed change := by
  obtain ⟨call, -, rfl⟩ := List.mem_map.mp h
  exact fun heq => by cases heq

theorem ne_changed_of_mem_messageEffects {b : Bridge} {message : Message} {effect : Effect}
    (h : effect ∈ b.messageEffects message) (change : Change) : effect ≠ .changed change := by
  rw [messageEffects, List.mem_append] at h
  rcases h with hchannel | hreceived
  · by_cases hhas : b.hasChannel = true
    · rw [if_pos hhas] at hchannel
      obtain rfl := List.mem_singleton.mp hchannel
      exact fun heq => by cases heq
    · rw [if_neg hhas] at hchannel
      cases hchannel
  · obtain rfl := List.mem_singleton.mp hreceived
    exact fun heq => by cases heq

/-- The outcome of an evaluation is no report of the page. -/
theorem completion_run_ne_changed (completion : Completion) (outcome : Outcome) (change : Change) :
    completion.run outcome ≠ .changed change := by
  cases completion with
  | report => cases outcome <;> exact fun heq => by cases heq
  | caller label => exact fun heq => by cases heq

/-- The effects of an action tell of the navigation after it. -/
theorem tells_effects (b : Bridge) (action : Action) :
    Tells b.navigation (b.effects action) (b.after action).navigation := by
  cases action with
  | handle event =>
      cases event with
      | navigated step => exact b.navigation.tells_step step
      | posted posting =>
          rw [effects, eventEffects]
          cases b.installation.accept? posting with
          | some message =>
              exact tells_of_quiet b.navigation fun _ hmem => ne_changed_of_mem_messageEffects hmem
          | none => exact tells_of_quiet b.navigation fun _ hmem => by cases hmem
      | evaluated completion outcome =>
          refine tells_of_quiet b.navigation fun effect hmem => ?_
          obtain rfl := List.mem_singleton.mp hmem
          exact completion_run_ne_changed completion outcome
  | manage _ | send _ | run _ =>
      exact tells_of_quiet b.navigation fun _ hmem => ne_changed_of_mem_map_call hmem
  | setChannel => exact tells_of_quiet b.navigation fun _ hmem => by cases hmem

/-- The effects of a run tell of the navigation after it. -/
theorem tells_run (b : Bridge) (actions : List Action) :
    Tells b.navigation (b.run actions).2 (b.run actions).1.navigation := by
  induction actions generalizing b with
  | nil => exact tells_of_quiet b.navigation fun _ hmem => by cases hmem
  | cons action actions ih =>
      rw [run_cons]
      exact (b.tells_effects action).append (ih (b.after action))

/-- After every run of a new bridge, whatever else is done with it, an observer of its reports knows
whether the page is loading or loaded and what its URL is.  Every report, also one in the middle of an
action, is news to the observer and never leaves the page loading and loaded at once; a page is said
to be loaded right after it is said to be loading no more; and a URL once known is never taken
away. -/
theorem reports_mirror_navigation (home : World) (history : List Action) :
    let b := ((fresh home).run history).1
    let log := ((fresh home).run history).2
    observe log = ⟨b.navigation.isLoading, b.navigation.isLoaded, b.navigation.url⟩ ∧
      (∀ before change later, log = before ++ .changed change :: later →
        let known := observe before
        let next := observe (before ++ [.changed change])
        next ≠ known ∧ ¬ (next.loading = true ∧ next.loaded = true) ∧
          (change = .loaded true → ∃ earlier, before = earlier ++ [.changed (.loading false)])) ∧
      (∀ before effects later, log = before ++ effects ++ later → (observe before).url ≠ "" →
        (observe (before ++ effects)).url ≠ "") := by
  intro b log
  obtain ⟨hknown, hdue⟩ := tells_run (fresh home) history [] rfl
  refine ⟨hknown, ?_, ?_⟩
  · intro before change later heq
    have h : Due ([] ++ before) change := hdue before change later heq
    have hnext : observe (before ++ [.changed change]) = (observe before).see change :=
      observe_append before [.changed change]
    rw [hnext]
    exact ⟨h.news, h.exclusive, h.loaded_follows⟩
  · intro before effects later heq hurl
    -- what is due among all later effects is due among those of the part
    have hrest : AllDue ([] ++ before) (effects ++ later) := by
      refine AllDue.tail ?_
      rw [← List.append_assoc, ← heq]
      exact hdue
    refine AllDue.url_ne_empty (fun earlier change rest hpart => ?_) hurl
    refine hrest earlier change (rest ++ later) ?_
    rw [hpart, List.append_assoc, List.cons_append]

/-- A load that starts anew, a finish without a start and a failure when nothing loads. -/
example :
    let step (s : Step) : Action := .handle (.navigated s)
    ((fresh .page).run [step (.started "a"), step (.finished ""), step (.finished "b"),
        step (.started "b"), step .failed, step .failed]).2 =
      [.changed (.url "a"), .changed (.loading true), .changed (.loading false),
        .changed (.loaded true), .changed (.url "b"), .changed (.loaded false),
        .changed (.loading true), .changed (.loading false)] := by
  decide +kernel

end Bridge

end PageBridge

/-
Module: DeviceWifi.Proofs.Leds
Layer: Proofs
Purpose: The LEDs are truthful over every run. A handler that touches them announces a reset, which ends in
  scheduling it, or takes an announcement back and updates the status LED; so while the factory-reset
  LEDs are lit a reset has been announced. `UpdateStatusLED` reads the flags before it makes its LED call,
  and both threads run it. An update is followed through its accesses for the flags it finds: that of
  `ChipEventHandler`, whose thread alone writes the flags, finds them as they are; that of the main
  thread may find some that have changed by the time of its LED call, and then must not come last.
Imports: DeviceWifi.Spec.Confined, DeviceWifi.Proofs.Sequential
Trusted boundary: none (fully proved)
Main exports: StatusUpdate, LedStage, dispatchEvent_ledStage, ledInv_of_reachable, shown_step, leds_truthful
Open obligations: none
-/
import DeviceWifi.Spec.Confined
import DeviceWifi.Proofs.Sequential

namespace DeviceWifi

open Reactive

/-! ### An update of the status LED -/

section Update

variable {α : Type} {next : Unit → Prog Call Response α} {flags : NetworkFlags} {c : Call}
  {k : Response → Prog Call Response α}

/-- What is left of an `UpdateStatusLED` that finds the given flags, before `next`. -/
inductive StatusUpdate (next : Unit → Prog Call Response α) (flags : NetworkFlags) :
    Prog Call Response α → Prop where
  | begins : StatusUpdate next flags (updateStatusLED >>= next)
  | provisioned (up : flags.isNetworkProvisioned = true) :
      StatusUpdate next flags (.call (.status (.readFlag .sIsNetworkEnabled)) fun enabled =>
        if enabled.flag then .call (.status (.ledSet true)) fun _ => next () else blinkThen next)
  | down (down : (flags.isNetworkProvisioned && flags.isNetworkEnabled) = false) :
      StatusUpdate next flags (blinkThen next)
  | shows {access : StatusAccess} (isLed : access.isLed = true)
      (truthful : ∀ d : Device, (access.effect d).statusLed = flags.statusLed) :
      StatusUpdate next flags (.call (.status access) fun _ => next ())

/-- With the network up the LED is lit, and otherwise blinks at the rate that tells of a connection. -/
theorem StatusUpdate.lights (up : flags.isNetworkProvisioned = true)
    (enabled : flags.isNetworkEnabled = true) :
    StatusUpdate next flags (.call (.status (.ledSet true)) fun _ => next ()) :=
  .shows rfl fun d => by simp [StatusAccess.effect, NetworkFlags.statusLed, up, enabled]

theorem StatusUpdate.blinks (down : (flags.isNetworkProvisioned && flags.isNetworkEnabled) = false)
    {rate : LedConsts.StatusLed}
    (tells : rate = if flags.haveBLEConnections then .unprovisioned else .provisioned) :
    StatusUpdate next flags (.call (.status (.ledBlink rate)) fun _ => next ()) := by
  refine .shows rfl fun d => ?_
  subst tells
  cases connected : flags.haveBLEConnections <;>
    simp [StatusAccess.effect, NetworkFlags.statusLed, down, connected, LedConsts.StatusLed.kOnMs,
      LedConsts.StatusLed.kOffMs]

/-- The accesses of an update: it reads flags, and goes on as for the flags it finds; last comes the LED
    call that shows them. -/
theorem StatusUpdate.access (update : StatusUpdate next flags (.call c k)) :
    (∃ flag, c = .status (.readFlag flag) ∧ StatusUpdate next flags (k (.ofFlag (flags.read flag))) ∧
      ∀ r, ∃ flags', StatusUpdate next flags' (k r)) ∨
    ∃ access, c = .status access ∧ access.isLed = true ∧
      (∀ d : Device, (access.effect d).statusLed = flags.statusLed) ∧ ∀ r, k r = next () := by
  generalize program : Prog.call c k = p at update
  cases update with
  | begins =>
      rw [updateStatusLED_bind] at program
      obtain ⟨rfl, rfl⟩ := Prog.call.inj program
      refine Or.inl ⟨_, rfl, ?_, fun r => ?_⟩
      · cases up : flags.isNetworkProvisioned with
        | true => simpa [NetworkFlags.read, up] using StatusUpdate.provisioned up
        | false => simpa [NetworkFlags.read, up] using StatusUpdate.down (by simp [up])
      · dsimp only
        split
        · exact ⟨⟨true, false, false⟩, .provisioned rfl⟩
        · exact ⟨⟨false, false, false⟩, .down rfl⟩
  | provisioned up =>
      obtain ⟨rfl, rfl⟩ := Prog.call.inj program
      refine Or.inl ⟨_, rfl, ?_, fun r => ?_⟩
      · cases enabled : flags.isNetworkEnabled with
        | true => simpa [NetworkFlags.read, enabled] using StatusUpdate.lights up enabled
        | false => simpa [NetworkFlags.read, enabled] using StatusUpdate.down (by simp [enabled])
      · dsimp only
        split
        · exact ⟨⟨true, true, false⟩, .lights rfl rfl⟩
        · exact ⟨⟨false, false, false⟩, .down rfl⟩
  | down down =>
      obtain ⟨rfl, rfl⟩ := Prog.call.inj program
      refine Or.inl ⟨_, rfl, ?_, fun r => ?_⟩
      · cases connected : flags.haveBLEConnections with
        | true => simpa [NetworkFlags.read, connected] using StatusUpdate.blinks down (by simp [connected])
        | false => simpa [NetworkFlags.read, connected] using StatusUpdate.blinks down (by simp [connected])
      · dsimp only
        split
        · exact ⟨⟨false, false, true⟩, .blinks rfl rfl⟩
        · exact ⟨⟨false, false, false⟩, .blinks rfl rfl⟩
  | shows isLed truthful =>
      obtain ⟨rfl, rfl⟩ := Prog.call.inj program
      exact Or.inr ⟨_, rfl, isLed, truthful, fun _ => rfl⟩

/-- Before its first reading an update is one for any flags. -/
theorem StatusUpdate.of_first
    (update : StatusUpdate next flags (.call (.status (.readFlag .sIsNetworkProvisioned)) k))
    (flags' : NetworkFlags) :
    StatusUpdate next flags' (.call (.status (.readFlag .sIsNetworkProvisioned)) k) := by
  generalize program : Prog.call (.status (.readFlag .sIsNetworkProvisioned)) k = p at update ⊢
  cases update with
  | begins => exact .begins
  | provisioned => exact nomatch (Prog.call.inj program).1
  | down => exact nomatch (Prog.call.inj program).1
  | shows isLed =>
      obtain rfl := Call.status.inj (Prog.call.inj program).1
      exact nomatch isLed

/-- An update has not returned. -/
theorem StatusUpdate.not_returned {p : Prog Call Response α} (update : StatusUpdate next flags p) :
    p.returned = false := by
  cases update with
  | begins =>
      rw [updateStatusLED_bind]
      rfl
  | _ => rfl

end Update

/-! ### ChipEventHandler -/

/-- `ChipEventHandler` writes flags and then updates the status LED: for the flags as they are by then. -/
inductive Refreshes : NetworkFlags → Prog Call Response Unit → Prop where
  | writes {flags : NetworkFlags} {flag : NetworkFlag} {value : Bool}
      {k : Response → Prog Call Response Unit}
      (continues : ∀ r, Refreshes (flags.write flag value) (k r)) :
      Refreshes flags (.call (.status (.writeFlag flag value)) k)
  | updates {flags : NetworkFlags} {p : Prog Call Response Unit} (update : StatusUpdate .pure flags p) :
      Refreshes flags p

/-- An event that `ChipEventHandler` does not look at leaves it nothing to do. -/
theorem chipEventHandler_refreshes (event : ChipDeviceEvent) (flags : NetworkFlags) :
    (chipEventHandler event).returned = true ∨ Refreshes flags (chipEventHandler event) := by
  have update (flags : NetworkFlags) : Refreshes flags updateStatusLED := by
    have whole : StatusUpdate .pure flags (updateStatusLED >>= .pure) := .begins
    exact .updates (Prog.bind_pure updateStatusLED ▸ whole)
  cases event with
  | chipoBLEAdvertisingChange n => exact Or.inr (.writes fun _ => update _)
  | wiFiConnectivityChange provisioned enabled =>
      exact Or.inr (.writes fun _ => .writes fun _ => update _)
  | other => exact Or.inl rfl

theorem Refreshes.not_returned {flags : NetworkFlags} {p : Prog Call Response Unit}
    (refreshes : Refreshes flags p) : p.returned = false := by
  cases refreshes with
  | writes => rfl
  | updates update => exact update.not_returned

/-- One access of `ChipEventHandler`: it goes on to refresh the LED for the flags it leaves, or makes the LED
    call, which shows them, and returns. -/
theorem Refreshes.access {d : Device} {access : StatusAccess} {k : Response → Prog Call Response Unit}
    (refreshes : Refreshes d.flags (.call (.status access) k)) :
    (access.isLed = false ∧
      Refreshes (access.effect d).flags (k (d.reply (.status access) default))) ∨
    (access.isLed = true ∧ (access.effect d).statusLed = (access.effect d).flags.statusLed ∧
      ∀ r, (k r).returned = true) := by
  cases refreshes with
  | writes continues => exact Or.inl ⟨rfl, continues _⟩
  | updates update =>
      rcases update.access with ⟨flag, same, continues, _⟩ | ⟨access', same, isLed, truthful, ends⟩
      · obtain rfl := Call.status.inj same
        exact Or.inl ⟨rfl, .updates continues⟩
      · obtain rfl := Call.status.inj same
        refine Or.inr ⟨isLed, ?_, fun r => by rw [ends r]; rfl⟩
        rw [truthful d]
        cases access with
        | ledSet | ledBlink => rfl
        | readFlag | writeFlag => exact nomatch isLed

/-! ### The LED calls of the handlers -/

/-- The accesses to the status, the calls that light or dim the factory-reset LEDs, and the scheduling of a
    reset. -/
def announceCall? (c : Call) : Option Call :=
  match c with
  | .status _ | .factoryResetLedsSet _ | .scheduleFactoryReset => some c
  | _ => none

/-- The calls that announce a reset and schedule it. -/
def announcement : List Call :=
  [.status (.ledSet true), .factoryResetLedsSet true, .scheduleFactoryReset]

/-- None of these calls is made. -/
abbrev Dark (rest : Prog Call Response (Unit × AppVars)) : Prop :=
  rest.Performs announceCall? [] fun _ => True

/-- What the running handler of an event has still to do with the LEDs. -/
inductive LedStage (lit : Prop) (event : AppEvent) : Prog Call Response (Unit × AppVars) → Prop where
  | dark {rest} (dark : Dark rest) : LedStage lit event rest
  /-- Calls of an announcement, of which the first has been made if the status LED is `lit`. -/
  | announcing {rest} {calls : List Call} (timer : event.functionInput? = some .timer)
      (performs : rest.Performs announceCall? calls fun _ => True)
      (left : calls = announcement ∨ lit ∧ calls <:+ announcement.tail) : LedStage lit event rest
  | withdrawing {next} (release : event.functionInput? = some .release) (after : Dark (next ())) :
      LedStage lit event (.call (.factoryResetLedsSet false) fun _ => updateStatusLED >>= next)
  | updating {next rest} {flags : NetworkFlags} (release : event.functionInput? = some .release)
      (after : Dark (next ())) (update : StatusUpdate next flags rest) : LedStage lit event rest

/-- A handler without LED calls stays one. -/
theorem Dark.next {c : Call} {k : Response → Prog Call Response (Unit × AppVars)} (dark : Dark (.call c k))
    (r : Response) : Dark (k r) := by
  rcases Prog.Performs.next dark r with ⟨_, continues⟩ | ⟨_, _, _, impossible, _⟩
  · exact continues
  · exact absurd impossible.symm (List.cons_ne_nil _ _)

/-- The view shows such a call as itself. -/
theorem eq_of_announceCall? {c o : Call} (visible : announceCall? c = some o) : c = o := by
  cases c <;> simp [announceCall?] at visible <;> exact visible

/-- The site of a call is viewed as the call is. -/
theorem announceCall?_site (c : Call) : (announceCall? c.site).isSome = (announceCall? c).isSome := by
  cases c with
  | status access => cases access <;> rfl
  | _ => rfl

/-- An event with no such call among its sites. -/
theorem dark_of_sites {event : AppEvent} (vars : AppVars)
    (hidden : ∀ site ∈ event.sites, announceCall? site = none) : Dark ((dispatchEvent event).run vars) := by
  refine (dispatchEvent_callsAmong vars event).performs_nil fun c own => ?_
  rw [← Option.not_isSome_iff_eq_none, ← announceCall?_site, hidden c.site own]
  exact Bool.false_ne_true

/-- Only a release of the function button is taken as one. -/
theorem event_of_release {event : AppEvent} (input : event.functionInput? = some .release) :
    event.handler = some .functionHandler ∧
      event.payload = .buttonEvent functionButton AppEventType.buttonReleased.toUInt8 := by
  unfold AppEvent.functionInput? at input
  split at input
  next => simp at input
  next pinNo action handler payload =>
    split_ifs at input with foreign push release
    · simp at input
    · rw [payload, not_not.mp foreign, release]
      exact ⟨handler, rfl⟩
  next => simp at input

/-- Dispatching an event announces a reset, takes the announcement back, or leaves the LEDs alone. -/
theorem dispatchEvent_ledStage (lit : Prop) (event : AppEvent) (vars : AppVars) :
    LedStage lit event ((dispatchEvent event).run vars) := by
  cases input : event.functionInput? with
  | none =>
      refine .dark (dark_of_sites vars ?_)
      rw [AppEvent.sites, input]
      cases handler : event.handler with
      | none => simp
      | some h =>
          cases h <;> cases event.payload <;>
            simp [EventHandler.sites, dhtSites, actuatorOutputs, announceCall?]
  | some function =>
      cases function with
      | push =>
          refine .dark (dark_of_sites vars ?_)
          simp [AppEvent.sites, input, FunctionInput.sites, announceCall?]
      | release =>
          obtain ⟨handler, payload⟩ := event_of_release input
          have apart : AppEventType.buttonReleased.toUInt8 ≠ AppEventType.buttonPushed.toUInt8 := by decide
          rw [dispatchEvent_some handler, EventHandler.invoke]
          cases armed : vars.mFunction with
          | noneSelected => exact .dark (by simp [functionHandler, payload, apart, armed])
          | factoryReset =>
              rw [run_functionHandler_release vars payload armed]
              exact .withdrawing input (by simp [Prog.Performs, announceCall?])
      | timer =>
          rw [dispatchEvent_some (handler_of_timer input), EventHandler.invoke]
          cases armed : vars.mFunction with
          | noneSelected => exact .dark (by simp [functionTimerEventHandler, armed])
          | factoryReset =>
              rw [run_functionTimerEventHandler_armed vars armed]
              refine .announcing input ?_ (Or.inl rfl)
              simp [announcement, Prog.Performs, announceCall?]

section Stage

variable {lit lit' : Prop} {event : AppEvent} {c : Call}
  {k : Response → Prog Call Response (Unit × AppVars)}

theorem LedStage.mono {rest : Prog Call Response (Unit × AppVars)} (stage : LedStage lit event rest)
    (stays : lit → lit') : LedStage lit' event rest := by
  cases stage with
  | dark dark => exact .dark dark
  | announcing timer performs left =>
      exact .announcing timer performs (left.imp_right fun tail => ⟨stays tail.1, tail.2⟩)
  | withdrawing release after => exact .withdrawing release after
  | updating release after update => exact .updating release after update

/-- Whatever is answered, the handler goes on with what it has still to do. -/
theorem LedStage.next (stage : LedStage lit event (.call c k)) (stays : lit → lit')
    (lights : c = .status (.ledSet true) → lit') (r : Response) : LedStage lit' event (k r) := by
  generalize program : Prog.call c k = p at stage
  cases stage with
  | dark dark =>
      subst program
      exact .dark (Dark.next dark r)
  | announcing timer performs left =>
      subst program
      rcases performs.next r with ⟨_, continues⟩ | ⟨o, rest, visible, rfl, continues⟩
      · exact .announcing timer continues (left.imp_right fun tail => ⟨stays tail.1, tail.2⟩)
      · refine .announcing timer continues (Or.inr ?_)
        rcases left with first | ⟨isLit, tail⟩
        · obtain ⟨rfl, rfl⟩ := List.cons.inj first
          exact ⟨lights (eq_of_announceCall? visible), List.suffix_refl _⟩
        · exact ⟨stays isLit, (List.suffix_cons o rest).trans tail⟩
  | @withdrawing next release after =>
      obtain ⟨rfl, rfl⟩ := Prog.call.inj program
      have fresh : StatusUpdate next ⟨false, false, false⟩ (updateStatusLED >>= next) := .begins
      exact .updating release after fresh
  | updating release after update =>
      subst program
      rcases update.access with ⟨_, _, _, continues⟩ | ⟨_, _, _, _, ends⟩
      · obtain ⟨flags, left⟩ := continues r
        exact .updating release after left
      · exact .dark (ends r ▸ after)

/-- A viewed call is the first of those to come. -/
theorem first_of_performs {calls : List Call}
    (performs : (Prog.call c k).Performs announceCall? calls fun _ => True)
    (visible : announceCall? c = some c) :
    ∃ rest, calls = c :: rest ∧ ∀ r, (k r).Performs announceCall? rest fun _ => True :=
  (Prog.performs_visible visible).mp performs

/-- What is left of an announcement starts with one of its calls. -/
theorem announcement_cases {rest : List Call}
    (left : c :: rest = announcement ∨ lit ∧ c :: rest <:+ announcement.tail) :
    (c = .status (.ledSet true) ∧ rest = [.factoryResetLedsSet true, .scheduleFactoryReset]) ∨
      (c = .factoryResetLedsSet true ∧ lit ∧ rest = [.scheduleFactoryReset]) ∨
        c = .scheduleFactoryReset := by
  simp only [announcement, List.tail_cons, List.suffix_cons_iff, List.suffix_nil, List.cons.injEq,
    reduceCtorEq, or_false] at left
  rcases left with ⟨rfl, rfl⟩ | ⟨isLit, ⟨rfl, rfl⟩ | ⟨rfl, _⟩⟩
  · exact Or.inl ⟨rfl, rfl⟩
  · exact Or.inr (Or.inl ⟨rfl, isLit, rfl⟩)
  · exact Or.inr (Or.inr rfl)

/-- A handler accesses the status to announce a reset, or in an update. -/
theorem LedStage.status {access : StatusAccess} (stage : LedStage lit event (.call (.status access) k)) :
    (access = .ledSet true ∧ event.functionInput? = some .timer) ∨
      ∃ next flags, event.functionInput? = some .release ∧ Dark (next ()) ∧
        StatusUpdate next flags (.call (.status access) k) := by
  generalize program : Prog.call (.status access) k = p at stage
  cases stage with
  | dark dark =>
      subst program
      obtain ⟨_, impossible, _⟩ := first_of_performs dark rfl
      exact nomatch impossible
  | announcing timer performs left =>
      subst program
      obtain ⟨rest, rfl, _⟩ := first_of_performs performs rfl
      rcases announcement_cases left with ⟨same, _⟩ | ⟨same, _⟩ | same
      · exact Or.inl ⟨Call.status.inj same, timer⟩
      · exact nomatch same
      · exact nomatch same
  | withdrawing => exact nomatch (Prog.call.inj program).1
  | updating release after update => exact Or.inr ⟨_, _, release, after, update⟩

/-- No handler writes a flag. -/
theorem LedStage.writes_no_flag (stage : LedStage lit event (.call c k)) (flag : NetworkFlag)
    (value : Bool) : c ≠ .status (.writeFlag flag value) := by
  rintro rfl
  rcases stage.status with ⟨same, _⟩ | ⟨_, _, _, _, update⟩
  · exact nomatch same
  · rcases update.access with ⟨_, same, _⟩ | ⟨_, same, isLed, _⟩
    · exact nomatch same
    · obtain rfl := Call.status.inj same
      exact nomatch isLed

/-- A performed scheduling is still to come. -/
theorem mem_outputs_of_performs {posted : Posted} {rest : Prog Call Response (Unit × AppVars)}
    {calls : List Call} (performs : rest.Performs announceCall? calls fun _ => True)
    (member : .scheduleFactoryReset ∈ calls) :
    .scheduleFactoryReset ∈ (MainThread.handling posted rest).outputs := by
  rw [← performs.filterMap_trace fun _ => default] at member
  obtain ⟨made, present, viewed⟩ := List.mem_filterMap.mp member
  refine List.mem_filterMap.mpr ⟨made, present, ?_⟩
  cases called : made.1 <;> simp [announceCall?, called] at viewed
  rfl

/-- A handler about to light the status LED for the timer, or the factory-reset LEDs, is announcing a reset:
    the second come after the first, and the scheduling is still to come. -/
theorem LedStage.lights (stage : LedStage lit event (.call c k))
    (light : c = .status (.ledSet true) ∧ event.functionInput? = some .timer ∨
      c = .factoryResetLedsSet true) :
    (c = .factoryResetLedsSet true → lit) ∧ ∀ (posted : Posted) (r : Response),
      .scheduleFactoryReset ∈ (MainThread.handling posted (k r)).outputs := by
  have visible : announceCall? c = some c := by rcases light with ⟨rfl, _⟩ | rfl <;> rfl
  generalize program : Prog.call c k = p at stage
  cases stage with
  | dark dark =>
      subst program
      obtain ⟨_, impossible, _⟩ := first_of_performs dark visible
      exact nomatch impossible
  | announcing timer performs left =>
      subst program
      obtain ⟨rest, rfl, continues⟩ := first_of_performs performs visible
      rcases announcement_cases left with ⟨rfl, rfl⟩ | ⟨rfl, isLit, rfl⟩ | rfl
      · exact ⟨nofun, fun posted r => mem_outputs_of_performs (continues r) (by simp)⟩
      · exact ⟨fun _ => isLit, fun posted r => mem_outputs_of_performs (continues r) (by simp)⟩
      · rcases light with ⟨impossible, _⟩ | impossible <;> exact nomatch impossible
  | withdrawing =>
      obtain ⟨rfl, _⟩ := Prog.call.inj program
      rcases light with ⟨impossible, _⟩ | impossible <;> exact nomatch impossible
  | updating release after update =>
      subst program
      rcases light with ⟨_, timer⟩ | rfl
      · exact nomatch release.symm.trans timer
      · rcases update.access with ⟨_, impossible, _⟩ | ⟨_, impossible, _⟩ <;> exact nomatch impossible

end Stage

/-! ### Announced resets -/

section Steps

variable {s s' : State} {a : Action}

theorem CalledFor.mono {log log' : List Entry} {cause : Nat} {c : Call} (grown : log <+: log')
    (called : CalledFor log cause c) : CalledFor log' cause c := by
  obtain ⟨entry, member, made⟩ := called
  exact ⟨entry, grown.subset member, made⟩

/-- A call just made. -/
theorem calledFor_append (log rest : List Entry) (time cause : Nat) (c : Call) (r : Response) :
    CalledFor (log ++ ⟨time, .called cause c r⟩ :: rest) cause c :=
  ⟨⟨time, .called cause c r⟩, by simp, r, rfl⟩

/-- A step that leaves the main thread alone leaves an announced reset announced. -/
theorem Announced.of_main (announced : Announced s) (main : s'.main = s.main)
    (grown : s.log <+: s'.log) : Announced s' := by
  obtain ⟨cause, lit, scheduled | ⟨running, later⟩⟩ := announced
  · exact ⟨cause, lit.mono grown, Or.inl (scheduled.mono grown)⟩
  · exact ⟨cause, lit.mono grown, Or.inr ⟨by rwa [main], by rwa [main]⟩⟩

/-- An announced reset stays announced: it is scheduled before the handler returns. -/
theorem announced_step (settled : HandlerSettled s.main) (announced : Announced s)
    (taken : step s a = some s') : Announced s' := by
  have grown := log_prefix_of_step taken
  cases stepEffect taken with
  | get vars posted queue main items =>
      obtain ⟨cause, lit, scheduled | ⟨⟨_, _, running, _⟩, _⟩⟩ := announced
      · exact ⟨cause, lit, Or.inl scheduled⟩
      · simp [main] at running
  | call posted c k r rest main reports =>
      obtain ⟨cause, lit, scheduled | ⟨⟨posted', rest', running, own⟩, later⟩⟩ := announced
      · exact ⟨cause, lit.mono grown, Or.inl (scheduled.mono grown)⟩
      · obtain ⟨rfl, rfl⟩ : posted = posted' ∧ _ := by simpa [main] using running
        rw [main] at settled later
        rw [(settled_call settled r).2.2, List.mem_append, Option.mem_toList] at later
        refine ⟨cause, lit.mono grown, ?_⟩
        rcases later with now | stillLater
        · refine Or.inl ⟨⟨s.now, .called posted.cause c r⟩, by simp, r, ?_⟩
          rw [own, eq_of_outputCall? now]
        · exact Or.inr ⟨⟨posted, k r, rfl, own⟩, stillLater⟩
  | ret posted u vars main =>
      obtain ⟨cause, lit, scheduled | ⟨_, later⟩⟩ := announced
      · exact ⟨cause, lit, Or.inl scheduled⟩
      · rw [main] at settled later
        rw [(settled_ret settled).1] at later
        exact absurd later List.not_mem_nil
  | noEdge => exact announced
  | _ => exact announced.of_main (by simp) grown

/-! ### The invariant of every run -/

/-- The running handler, as its event and what was lit for it allow. -/
abbrev State.InLedStage (s : State) : Prop :=
  ∀ posted rest, s.main = .handling posted rest →
    LedStage (CalledFor s.log posted.cause (.status (.ledSet true))) posted.event rest

/-- Both threads are somewhere in what they do with the LEDs, and the factory-reset LEDs are lit for an
    announced reset. -/
structure LedInv (s : State) : Prop where
  stage : s.InLedStage
  chip : s.chip.returned = true ∨ Refreshes s.device.flags s.chip
  factoryResetLeds : s.device.factoryResetLeds = true → Announced s

/-- A call of a handler that writes no flag leaves them alone. -/
theorem effect_flags {c : Call} (writesNone : ∀ flag value, c ≠ .status (.writeFlag flag value)) (now : Nat)
    (r : Response) (d : Device) : (effect now c r d).flags = d.flags := by
  cases c with
  | pwmSetPulseDt width => simp only [effect]; split <;> rfl
  | status access =>
      cases access with
      | writeFlag flag value => exact absurd rfl (writesNone flag value)
      | _ => rfl
  | _ => rfl

/-- A call that is no access to the status leaves the status LED alone. -/
theorem effect_statusLed {c : Call} (other : ∀ access, c ≠ .status access) (now : Nat) (r : Response)
    (d : Device) : (effect now c r d).statusLed = d.statusLed := by
  cases c with
  | pwmSetPulseDt width => simp only [effect]; split <;> rfl
  | status access => exact absurd rfl (other access)
  | _ => rfl

/-- A `ChipEventHandler` with an access left refreshes the LED. -/
theorem LedInv.refreshes (inv : LedInv s) {access : StatusAccess}
    {k : Response → Prog Call Response Unit} (chip : s.chip = .call (.status access) k) :
    Refreshes s.device.flags (.call (.status access) k) := by
  rw [← chip]
  refine inv.chip.resolve_left ?_
  rw [chip]
  exact Bool.false_ne_true

/-- A handler's call lights LEDs for a reset only in an announcement of it, which is then under way. -/
theorem LedInv.lights (inv : LedInv s) {posted : Posted} {c : Call} {r : Response}
    {k : Response → Prog Call Response (Unit × AppVars)} {more : List Entry}
    (running : s.main = .handling posted (.call c k)) (main : s'.main = .handling posted (k r))
    (log : s'.log = s.log ++ ⟨s.now, .called posted.cause c r⟩ :: more)
    (light : c = .status (.ledSet true) ∧ posted.event.functionInput? = some .timer ∨
      c = .factoryResetLedsSet true) : Announced s' := by
  obtain ⟨after, schedules⟩ := (inv.stage posted _ running).lights light
  refine ⟨posted.cause, ?_, Or.inr ⟨⟨posted, k r, main, rfl⟩, by rw [main]; exact schedules posted r⟩⟩
  rw [log]
  rcases light with ⟨rfl, _⟩ | rfl
  · exact calledFor_append ..
  · exact (after rfl).mono (List.prefix_append _ _)

/-- Every step keeps the invariant. -/
theorem ledInv_step (settled : HandlerSettled s.main) (inv : LedInv s) (taken : step s a = some s') :
    LedInv s' := by
  have grown := log_prefix_of_step taken
  have announced (before : Announced s) : Announced s' := announced_step settled before taken
  have stays {posted : Posted} {rest : Prog Call Response (Unit × AppVars)}
      (running : s.main = .handling posted rest) :
      LedStage (CalledFor s'.log posted.cause (.status (.ledSet true))) posted.event rest :=
    (inv.stage posted rest running).mono (CalledFor.mono grown)
  cases stepEffect taken with
  | chip event resting =>
      exact ⟨fun _ _ running => stays running, chipEventHandler_refreshes event s.device.flags,
        fun lit => announced (inv.factoryResetLeds lit)⟩
  | chipCall access k chip =>
      have leds := (statusEffect_sameOutputs access s.device).factoryResetLeds
      refine ⟨fun _ _ running => stays running, ?_, fun lit => announced (inv.factoryResetLeds (leds ▸ lit))⟩
      rcases (inv.refreshes chip).access with ⟨_, continues⟩ | ⟨_, _, ends⟩
      · exact Or.inr continues
      · exact Or.inl (ends _)
  | get vars posted queue main items =>
      refine ⟨?_, inv.chip, fun lit => announced (inv.factoryResetLeds lit)⟩
      rintro posted' rest running
      obtain ⟨rfl, rfl⟩ := MainThread.handling.inj running
      exact dispatchEvent_ledStage _ posted.event vars
  | call posted c k r rest main reports =>
      have stage := inv.stage posted _ main
      refine ⟨?_, ?_, fun lit => ?_⟩
      · rintro posted' rest' running
        obtain ⟨rfl, rfl⟩ := MainThread.handling.inj running
        refine stage.next (CalledFor.mono grown) ?_ r
        rintro rfl
        exact calledFor_append ..
      · rw [effect_flags stage.writes_no_flag]
        exact inv.chip
      · dsimp only at lit
        rw [effect_factoryResetLeds] at lit
        cases c with
        | factoryResetLedsSet on =>
            obtain rfl : on = true := lit
            exact inv.lights main rfl rfl (Or.inr rfl)
        | _ => exact announced (inv.factoryResetLeds lit)
  | ret posted u vars main =>
      exact ⟨fun _ _ running => (nomatch running), inv.chip, fun lit => announced (inv.factoryResetLeds lit)⟩
  | noEdge => exact inv
  | _ =>
      refine ⟨fun _ _ running => stays (by simpa using running), ?_, fun lit => announced ?_⟩
      · simpa [Device.setTimer, Device.setAttribute] using inv.chip
      · exact inv.factoryResetLeds (by simpa [Device.setTimer, Device.setAttribute] using lit)

theorem ledInv_of_reachable (reached : Reachable s) : LedInv s :=
  reached.invariant_with settled_of_reachable
    ⟨fun _ _ running => (nomatch running), Or.inl rfl, fun lit => nomatch lit⟩
    fun settled inv _ taken => ledInv_step settled inv taken

/-! ### The status LED -/

/-- A main thread that has read flags in its update has found them as they are. -/
def State.Current (s : State) : Prop :=
  ∀ posted rest, s.main = .handling posted rest → s.main.updatesStatusLED = true →
    ∃ next, StatusUpdate next s.device.flags rest

/-- While `ChipEventHandler` is not running, the status LED is truthful, and the main thread is not about to
    make it otherwise. -/
def Shown (s : State) : Prop :=
  s.chip.returned = true →
    (s.device.statusLed = s.device.flags.statusLed ∨ s.device.statusLed = .set true ∧ Announced s) ∧
      s.Current

/-- Outside an update there is nothing to find. -/
theorem current_of_not_updating (notUpdating : s.main.updatesStatusLED = false) : s.Current :=
  fun _ _ _ updating => absurd (notUpdating.symm.trans updating) Bool.false_ne_true

/-- The main thread updates the status LED for a release, its next access not being the first. -/
theorem updatesStatusLED_iff {posted : Posted} {rest : Prog Call Response (Unit × AppVars)} :
    (MainThread.handling posted rest).updatesStatusLED = true ↔
      ∃ access k, rest = .call (.status access) k ∧ posted.event.functionInput? = some .release ∧
        access ≠ .readFlag .sIsNetworkProvisioned := by
  unfold MainThread.updatesStatusLED
  cases rest with
  | pure result => simp
  | call c k => cases c <;> simp

/-- A handler that has just been entered updates nothing. -/
theorem updatesStatusLED_get (posted : Posted) (vars : AppVars) :
    (MainThread.handling posted ((dispatchEvent posted.event).run vars)).updatesStatusLED = false := by
  rw [Bool.eq_false_iff, ne_eq, updatesStatusLED_iff]
  rintro ⟨access, k, program, release, _⟩
  obtain ⟨handler, payload⟩ := event_of_release release
  have apart : AppEventType.buttonReleased.toUInt8 ≠ AppEventType.buttonPushed.toUInt8 := by decide
  rw [dispatchEvent_some handler, EventHandler.invoke] at program
  cases armed : vars.mFunction with
  | noneSelected => simp [functionHandler, payload, apart, armed] at program
  | factoryReset =>
      rw [run_functionHandler_release vars payload armed] at program
      exact Call.noConfusion (Prog.call.inj program).1

/-- The function timer's handler updates nothing. -/
theorem updatesStatusLED_timer {posted : Posted} (timer : posted.event.functionInput? = some .timer)
    (rest : Prog Call Response (Unit × AppVars)) :
    (MainThread.handling posted rest).updatesStatusLED = false := by
  rw [Bool.eq_false_iff, ne_eq, updatesStatusLED_iff]
  rintro ⟨_, _, _, release, _⟩
  simp [timer] at release

/-- A handler without LED calls updates nothing. -/
theorem updatesStatusLED_dark (posted : Posted) {rest : Prog Call Response (Unit × AppVars)}
    (dark : Dark rest) : (MainThread.handling posted rest).updatesStatusLED = false := by
  rw [Bool.eq_false_iff, ne_eq, updatesStatusLED_iff]
  rintro ⟨access, k, rfl, _⟩
  obtain ⟨_, impossible, _⟩ := first_of_performs dark rfl
  exact nomatch impossible

/-- After a call of another kind the first access of an update is at most the next. -/
theorem LedStage.updatesStatusLED_next {lit : Prop} {posted : Posted} {c : Call}
    {k : Response → Prog Call Response (Unit × AppVars)}
    (stage : LedStage lit posted.event (.call c k)) (other : ∀ access, c ≠ .status access) (r : Response) :
    (MainThread.handling posted (k r)).updatesStatusLED = false := by
  generalize program : Prog.call c k = p at stage
  cases stage with
  | dark dark =>
      subst program
      exact updatesStatusLED_dark posted (Dark.next dark r)
  | announcing timer => exact updatesStatusLED_timer timer _
  | withdrawing =>
      obtain ⟨rfl, rfl⟩ := Prog.call.inj program
      rw [Bool.eq_false_iff, ne_eq, updatesStatusLED_iff, updateStatusLED_bind]
      rintro ⟨access, k', program, _, later⟩
      exact later (Call.status.inj (Prog.call.inj program).1).symm
  | updating release after update =>
      subst program
      rcases update.access with ⟨_, same, _⟩ | ⟨_, same, _⟩ <;> exact absurd same (other _)

/-- What touches neither the LED nor the flags. -/
theorem Shown.of_same (shown : Shown s) (resting : s'.chip.returned = true → s.chip.returned = true)
    (announced : Announced s → Announced s') (main : s'.main = s.main)
    (statusLed : s'.device.statusLed = s.device.statusLed) (flags : s'.device.flags = s.device.flags) :
    Shown s' := by
  intro rests
  obtain ⟨truthful, current⟩ := shown (resting rests)
  refine ⟨?_, ?_⟩
  · rw [statusLed, flags]
    exact truthful.imp_right fun lit => ⟨lit.1, announced lit.2⟩
  · unfold State.Current
    rw [main, flags]
    exact current

/-- A call of the running handler. An update of the main thread that began, or went on, while
    `ChipEventHandler` is not running ends in showing the flags as they are. -/
theorem Shown.call (inv : LedInv s) (shown : Shown s) (announced : Announced s → Announced s')
    {posted : Posted} {c : Call} {k : Response → Prog Call Response (Unit × AppVars)}
    {response : Response} {more : List Entry} (running : s.main = .handling posted (.call c k))
    (chip : s'.chip = s.chip) (main : s'.main = .handling posted (k (s.device.reply c response)))
    (device : s'.device = effect s.now c (s.device.reply c response) s.device)
    (log : s'.log = s.log ++ ⟨s.now, .called posted.cause c (s.device.reply c response)⟩ :: more) :
    Shown s' := by
  intro rests
  obtain ⟨truthful, current⟩ := shown (chip ▸ rests)
  have stage := inv.stage posted _ running
  by_cases status : ∃ access, c = .status access
  · obtain ⟨access, rfl⟩ := status
    rcases stage.status with ⟨rfl, timer⟩ | ⟨next, flags, release, after, update⟩
    · refine ⟨Or.inr ⟨by rw [device]; rfl, inv.lights running main log (Or.inl ⟨rfl, timer⟩)⟩, ?_⟩
      apply current_of_not_updating
      rw [main]
      exact updatesStatusLED_timer timer _
    · -- the flags read so far are those the device has
      have now : ∃ next, StatusUpdate next s.device.flags (.call (.status access) k) := by
        by_cases first : access = .readFlag .sIsNetworkProvisioned
        · subst first
          exact ⟨next, update.of_first s.device.flags⟩
        · refine current posted _ running ?_
          rw [running, updatesStatusLED_iff]
          exact ⟨access, k, rfl, release, first⟩
      obtain ⟨next', now⟩ := now
      rcases now.access with ⟨flag, same, continues, _⟩ | ⟨access', same, isLed, shows, _⟩
      · obtain rfl := Call.status.inj same
        refine ⟨?_, fun posted' rest running' _ => ⟨next', ?_⟩⟩
        · rw [device]
          exact truthful.imp_right fun lit => ⟨lit.1, announced lit.2⟩
        · obtain ⟨rfl, rfl⟩ := MainThread.handling.inj (main.symm.trans running')
          rw [device]
          exact continues
      · obtain rfl := Call.status.inj same
        have flagsSame : s'.device.flags = s.device.flags := by
          rw [device, effect_flags stage.writes_no_flag]
        refine ⟨Or.inl (by rw [flagsSame, device]; exact shows s.device), ?_⟩
        apply current_of_not_updating
        rw [main]
        rcases update.access with ⟨_, reads, _⟩ | ⟨_, _, _, _, ends⟩
        · obtain rfl := Call.status.inj reads
          exact nomatch isLed
        · exact updatesStatusLED_dark posted (ends _ ▸ after)
  · have other : ∀ access, c ≠ .status access := fun access same => status ⟨access, same⟩
    have flagsSame : s'.device.flags = s.device.flags := by
      rw [device, effect_flags stage.writes_no_flag]
    have ledSame : s'.device.statusLed = s.device.statusLed := by
      rw [device, effect_statusLed other]
    refine ⟨?_, current_of_not_updating ?_⟩
    · rw [flagsSame, ledSame]
      exact truthful.imp_right fun lit => ⟨lit.1, announced lit.2⟩
    · rw [main]
      exact stage.updatesStatusLED_next other _

/-- A step that does not overtake the main thread keeps the status LED truthful. -/
theorem shown_step (settled : HandlerSettled s.main) (inv : LedInv s) (shown : Shown s)
    (allowed : NotOvertaken s a) (taken : step s a = some s') : Shown s' := by
  have announced (before : Announced s) : Announced s' := announced_step settled before taken
  cases stepEffect taken with
  | chip event resting => exact shown.of_same (fun _ => resting) announced rfl rfl rfl
  | chipCall access k chip =>
      intro rests
      rcases (inv.refreshes chip).access with ⟨_, continues⟩ | ⟨isLed, shows, _⟩
      · exact absurd (continues.not_returned.symm.trans rests) Bool.false_ne_true
      · have notUpdating : s.main.updatesStatusLED = false :=
          allowed rfl (by rw [State.chipShows, chip]; exact isLed)
        exact ⟨Or.inl shows, current_of_not_updating notUpdating⟩
  | get vars posted queue main items =>
      intro rests
      obtain ⟨truthful, _⟩ := shown rests
      exact ⟨truthful.imp_right fun lit => ⟨lit.1, announced lit.2⟩,
        current_of_not_updating (updatesStatusLED_get posted vars)⟩
  | call posted c k r rest main reports response replied =>
      subst replied
      exact shown.call inv announced main rfl rfl rfl rfl
  | ret posted u vars main =>
      intro rests
      obtain ⟨truthful, _⟩ := shown rests
      exact ⟨truthful.imp_right fun lit => ⟨lit.1, announced lit.2⟩, fun _ _ running => nomatch running⟩
  | noEdge => exact shown
  | _ =>
      apply shown.of_same (by simp) announced (by simp)
      all_goals simp [Device.setTimer, Device.setAttribute]

end Steps

/-- The button is held until the function timer's event is handled, up to the lighting of the LEDs. -/
def announcedReset : List Action :=
  [.button 1 1, .get, .call default, .ret, .elapse 6000, .expiry .sFunctionTimer, .get, .call default,
   .call default]

/-- The network comes up while the handler of a release is between its first flag reading and its LED call,
    and `ChipEventHandler` makes its own LED call before that one or after it. -/
def releaseMeetsConnection (overtaking : Bool) : List Action :=
  [.button 1 1, .get, .call default, .ret, .button 0 1, .get, .call default, .call default,
   .chip (.wiFiConnectivityChange true true), .chipCall, .chipCall, .chipCall, .chipCall] ++
  if overtaking then [.chipCall, .call default, .call default]
  else [.call default, .call default, .chipCall]

end DeviceWifi

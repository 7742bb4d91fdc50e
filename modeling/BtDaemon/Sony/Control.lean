import BtDaemon.Sony.NoiseControl
import BtDaemon.Sony.StopAndWait

/-!
# Control of noise cancelling

The reader of a session stores each report of the headphones that it accepts, and announces a
change. A client that sets a mode makes a command of the report that is stored at that time, queues
it for the writer of the same session and waits for its acknowledgement; the report can change in
between. When the session is over the channel of the headphones is removed.
-/

namespace BtDaemon.Sony.Control

open Session (Capacities Command Event Reply begun runSession settled)
open Transition (System)

/-- A call of `set_noise_control`. -/
structure Call where
  mode : String
  /-- The report that was stored. -/
  base : NcAsm
  payload : List UInt8
  /-- The completion sender of the command, once it is queued. -/
  sender : Option ℕ

structure State where
  session : Session.State
  /-- The channel is in the table of channels. -/
  connected : Bool
  /-- `noise_control` of the channel. -/
  noiseControl : Option NcAsm
  /-- The reports that were accepted. -/
  reports : List NcAsm
  calls : List Call
  /-- Broadcasts of changes that were made and not announced yet. -/
  owed : ℕ
  /-- What was stored at the last broadcast. -/
  announced : Option NcAsm

/-- The channel is inserted when the init request is queued. -/
def init : State where
  session := Session.enqueue Session.init ⟨initRequest, none⟩
  connected := true
  noiseControl := none
  reports := []
  calls := []
  owed := 0
  announced := none

inductive Action
  /-- A step of the session that queues no command of a client. -/
  | session (action : Session.Action)
  | call (mode : String)
  | submit (index : ℕ)
  | broadcast
  /-- `ended` of the provider. -/
  | ended

/-- The report in a frame. -/
def reportOf (frame : Frame) : Option NcAsm :=
  if frame.kind = command ∧
      (frame.payload.head? = some ncAsmRet ∨ frame.payload.head? = some ncAsmNotify) then
    (decodeNcAsm frame.payload).toOption
  else none

/-- An unchanged report is not announced. -/
def storeNoiseControl (state : State) (report : NcAsm) : State :=
  let state := { state with reports := state.reports ++ [report] }
  if state.connected = false ∨ state.noiseControl = some report then state
  else { state with noiseControl := some report, owed := state.owed + 1 }

def store (state : State) : Option NcAsm → State
  | none => state
  | some report => storeNoiseControl state report

/-- A call that finds no report, or is for a mode that is not known, fails. -/
def setNoiseControl (state : State) (mode : String) : State :=
  match state.noiseControl with
  | none => state
  | some base =>
    match ncAsmPayload base mode with
    | .error _ => state
    | .ok payload => { state with calls := state.calls ++ [⟨mode, base, payload, none⟩] }

def step (state : State) : Action → Option State
  | .session (.queue _ _) => none
  | .session (.receive frame) =>
    (Session.step runSession state.session (.receive frame)).map fun session ↦
      store { state with session } (reportOf frame)
  | .session action =>
    (Session.step runSession state.session action).map fun session ↦ { state with session }
  | .call mode => some (setNoiseControl state mode)
  | .submit index =>
    match state.calls[index]? with
    | some ⟨mode, base, payload, none⟩ =>
      (Session.step runSession state.session (.queue payload true)).map fun session ↦
        { state with
          session
          calls := state.calls.set index ⟨mode, base, payload, some state.session.senders⟩ }
    | _ => none
  | .broadcast =>
    if state.owed = 0 then none
    else some { state with owed := state.owed - 1, announced := state.noiseControl }
  | .ended =>
    if state.session.phase = .ended ∧ state.connected = true then
      some { state with connected := false, noiseControl := none, owed := state.owed + 1 }
    else none

def system : System State Action := ⟨init, step⟩

/-! ## What is queued -/

/-- A command that no client waits for. -/
def Background (command : Command) : Prop :=
  command.done = none ∧ (command.payload = initRequest ∨ command.payload ∈ queries)

/-- Steps of the session queue nothing but queries. -/
def Queues (state next : Session.State) : Prop :=
  ∃ more, next.queued = state.queued ++ more ∧ ∀ command ∈ more, Background command

theorem Queues.refl {state next : Session.State} (hqueued : next.queued = state.queued) :
    Queues state next :=
  ⟨[], by rw [hqueued, List.append_nil], nofun⟩

theorem Queues.trans {first second third : Session.State} (hfirst : Queues first second)
    (hsecond : Queues second third) : Queues first third := by
  obtain ⟨more, hmore, hbackground⟩ := hfirst
  obtain ⟨extra, hextra, hothers⟩ := hsecond
  exact ⟨more ++ extra, by rw [hextra, hmore, List.append_assoc],
    List.forall_mem_append.mpr ⟨hbackground, hothers⟩⟩

theorem queues_trySend (capacity : Capacities) (state : Session.State) {payload : List UInt8}
    (hquery : payload ∈ queries) : Queues state (Session.trySend capacity state payload) := by
  rw [Session.trySend]
  split
  · exact ⟨[⟨payload, none⟩], rfl, List.forall_mem_singleton.mpr ⟨rfl, .inr hquery⟩⟩
  · exact .refl rfl

theorem queues_applyCommand (capacity : Capacities) (state : Session.State)
    (payload : List UInt8) : Queues state (Session.applyCommand capacity state payload) := by
  rw [Session.applyCommand]
  split
  · exact List.foldlRecOn queries (Session.trySend capacity) (.refl rfl)
      fun later hlater payload hquery ↦ hlater.trans (queues_trySend capacity later hquery)
  · exact .refl rfl

theorem queues_applyFrame {capacity : Capacities} {state next : Session.State} {frame : Frame}
    (hstep : Session.applyFrame capacity state frame = some next) : Queues state next := by
  rw [Session.applyFrame] at hstep
  split at hstep
  · obtain rfl := Option.some.inj hstep
    split <;> exact .refl rfl
  split at hstep
  · split at hstep
    · obtain rfl := Option.some.inj hstep
      split
      · exact queues_applyCommand capacity (Session.queueAck state frame.sequence) frame.payload
      · exact .refl rfl
    · cases hstep
  · obtain rfl := Option.some.inj hstep
    exact .refl rfl

theorem queued_sendCommand (state : Session.State) (next : Command) :
    (Session.sendCommand state next).queued = state.queued := by
  rw [Session.sendCommand]
  split <;> rfl

theorem queued_sendAck (state : Session.State) (received : UInt8) (current : Option Command) :
    (Session.sendAck state received current).queued = state.queued := by
  rw [Session.sendAck]
  split <;> rfl

theorem queued_turn {state next : Session.State} (hstep : Session.turn state = some next) :
    next.queued = state.queued := by
  rcases Session.turn_cases hstep with ⟨received, acks, -, -, -, rfl⟩ |
    ⟨command, commands, -, -, -, rfl⟩ | ⟨-, -, rfl⟩ | ⟨current, sequence, acked, -, -, -, rfl⟩ |
    ⟨current, -, -, -, -, rfl⟩
  · exact queued_sendAck _ _ _
  · exact queued_sendCommand _ _
  · rfl
  · rfl
  · rfl

theorem queued_written {state next : Session.State} (hstep : Session.written state = some next) :
    next.queued = state.queued := by
  unfold Session.written at hstep
  split at hstep
  · rw [← Option.some.inj hstep]
  · rw [← Option.some.inj hstep]
  · cases hstep

theorem queues_step {capacity : Capacities} {state next : Session.State}
    {action : Session.Action} (hstep : Session.step capacity state action = some next)
    (hclient : ∀ payload completion, action ≠ .queue payload completion) : Queues state next := by
  obtain ⟨-, hact⟩ := Session.step_eq_some.mp hstep
  cases action with
  | queue payload completion => exact absurd rfl (hclient payload completion)
  | receive frame => exact queues_applyFrame hact
  | closeCommands => exact .refl (by rw [← Option.some.inj hact])
  | expire =>
    obtain ⟨-, hnext⟩ := Option.ite_none_right_eq_some.mp hact
    exact .refl (by rw [← Option.some.inj hnext])
  | turn => exact .refl (queued_turn hact)
  | written => exact .refl (queued_written hact)
  | failed =>
    obtain ⟨-, hnext⟩ := Option.ite_none_right_eq_some.mp hact
    exact .refl (by rw [← Option.some.inj hnext])
  | cancel => exact .refl (by rw [← Option.some.inj hact])

/-! ## What holds in every run -/

/-- The call is one of these and its command was queued with this completion sender. -/
def Submitted (calls : List Call) (command : Command) : Prop :=
  ∃ call ∈ calls, ∃ sender, call.sender = some sender ∧ command = ⟨call.payload, some sender⟩

structure Sound (state : State) : Prop where
  session : Session.Invariant state.session
  /-- A command is of the session or of a call. -/
  queued : ∀ command ∈ state.session.queued, Background command ∨ Submitted state.calls command
  /-- A call is for a mode that is known, and rests on a report of this session. -/
  calls : ∀ call ∈ state.calls, call.base ∈ state.reports ∧
    ncAsmPayload call.base call.mode = .ok call.payload
  submitted : ∀ call ∈ state.calls, ∀ sender, call.sender = some sender →
    (⟨call.payload, some sender⟩ : Command) ∈ state.session.queued
  noiseControl : state.noiseControl = if state.connected then state.reports.getLast? else none
  announced : state.owed = 0 → state.announced = state.noiseControl

theorem sound_init : Sound init where
  session := Session.invariant_init.enqueue_background initRequest
  queued _ hcommand := .inl (List.mem_singleton.mp hcommand ▸ ⟨rfl, .inl rfl⟩)
  calls _ hcall := nomatch hcall
  submitted _ hcall := nomatch hcall
  noiseControl := rfl
  announced _ := rfl

theorem Sound.session_step {state : State} (hsound : Sound state) {next : Session.State}
    (hsession : Session.Invariant next) (hqueues : Queues state.session next) :
    Sound { state with session := next } where
  session := hsession
  queued command hcommand := by
    obtain ⟨more, hmore, hbackground⟩ := hqueues
    rw [hmore] at hcommand
    rcases List.mem_append.mp hcommand with hold | hnew
    · exact hsound.queued command hold
    · exact .inl (hbackground command hnew)
  calls := hsound.calls
  submitted call hcall sender hsender := by
    obtain ⟨more, hmore, -⟩ := hqueues
    rw [hmore]
    exact List.mem_append_left _ (hsound.submitted call hcall sender hsender)
  noiseControl := hsound.noiseControl
  announced := hsound.announced

theorem Sound.store {state : State} (hsound : Sound state) (found : Option NcAsm) :
    Sound (store state found) := by
  cases found with
  | none => exact hsound
  | some report =>
    have hcalls : ∀ call ∈ state.calls, call.base ∈ state.reports ++ [report] ∧
        ncAsmPayload call.base call.mode = .ok call.payload := fun call hcall ↦
      ⟨List.mem_append_left _ (hsound.calls call hcall).1, (hsound.calls call hcall).2⟩
    have hshown := hsound.noiseControl
    rw [Control.store, storeNoiseControl]
    by_cases hconnected : state.connected = true
    · rw [if_pos hconnected] at hshown
      split
      · next hsame =>
        have hreport : state.noiseControl = some report :=
          hsame.resolve_left (by rw [hconnected]; decide)
        exact { hsound with
          calls := hcalls
          noiseControl := by
            dsimp only
            rw [if_pos hconnected, List.getLast?_concat, hreport] }
      · exact { hsound with
          calls := hcalls
          noiseControl := by
            dsimp only
            rw [if_pos hconnected, List.getLast?_concat]
          announced := fun hzero ↦ absurd hzero (Nat.succ_ne_zero _) }
    · rw [if_neg hconnected] at hshown
      rw [if_pos (.inl (Bool.eq_false_iff.mpr hconnected))]
      exact { hsound with
        calls := hcalls
        noiseControl := by
          dsimp only
          rw [if_neg hconnected, hshown] }

theorem Sound.setNoiseControl {state : State} (hsound : Sound state) (mode : String) :
    Sound (setNoiseControl state mode) := by
  unfold Control.setNoiseControl
  split
  · exact hsound
  next base hbase =>
  split
  · exact hsound
  next payload hpayload =>
  have hreport : base ∈ state.reports := by
    have hshown := hsound.noiseControl
    rw [hbase] at hshown
    split at hshown
    · exact List.mem_of_getLast? hshown.symm
    · cases hshown
  exact { hsound with
    queued := fun command hcommand ↦ (hsound.queued command hcommand).imp_right
      fun ⟨call, hcall, hsender⟩ ↦ ⟨call, List.mem_append_left _ hcall, hsender⟩
    calls := List.forall_mem_append.mpr
      ⟨hsound.calls, List.forall_mem_singleton.mpr ⟨hreport, hpayload⟩⟩
    submitted := List.forall_mem_append.mpr ⟨hsound.submitted, List.forall_mem_singleton.mpr nofun⟩ }

/-- The other calls stay when one is changed. -/
theorem mem_set_of_ne {calls : List Call} {index : ℕ} {old new call : Call}
    (hold : calls[index]? = some old) (hcall : call ∈ calls) (hne : call ≠ old) :
    call ∈ calls.set index new := by
  obtain ⟨other, hother⟩ := List.mem_iff_getElem?.mp hcall
  have hindex : index ≠ other := by
    rintro rfl
    exact hne (Option.some.inj (hother.symm.trans hold))
  exact List.mem_of_getElem? ((List.getElem?_set_ne hindex).trans hother)

theorem Sound.submit {state : State} (hsound : Sound state) {index : ℕ} {mode : String}
    {base : NcAsm} {payload : List UInt8}
    (hindex : state.calls[index]? = some ⟨mode, base, payload, none⟩) {next : Session.State}
    (hstep : Session.step runSession state.session (.queue payload true) = some next) :
    Sound { state with
      session := next
      calls := state.calls.set index ⟨mode, base, payload, some state.session.senders⟩ } := by
  have hsession := hsound.session.step hstep
  obtain ⟨-, hact⟩ := Session.step_eq_some.mp hstep
  obtain ⟨-, hnext⟩ := Option.ite_none_right_eq_some.mp hact
  have hqueued : next.queued =
      state.session.queued ++ [⟨payload, some state.session.senders⟩] := by
    rw [← Option.some.inj hnext]
    rfl
  have hnew : (⟨mode, base, payload, some state.session.senders⟩ : Call) ∈
      state.calls.set index ⟨mode, base, payload, some state.session.senders⟩ := by
    obtain ⟨hlength, -⟩ := List.getElem?_eq_some_iff.mp hindex
    exact List.mem_set hlength _
  exact {
    session := hsession
    queued := by
      intro command hcommand
      rw [hqueued] at hcommand
      rcases List.mem_append.mp hcommand with hold | hlast
      · apply (hsound.queued command hold).imp_right
        rintro ⟨call, hcall, sender, hsender, hcommand⟩
        refine ⟨call, mem_set_of_ne hindex hcall ?_, sender, hsender, hcommand⟩
        rintro rfl
        cases hsender
      · exact .inr ⟨_, hnew, _, rfl, List.mem_singleton.mp hlast⟩
    calls := by
      intro call hcall
      rcases List.mem_or_eq_of_mem_set hcall with hold | rfl
      · exact hsound.calls call hold
      · exact hsound.calls ⟨mode, base, payload, none⟩ (List.mem_of_getElem? hindex)
    submitted := by
      intro call hcall sender hsender
      rw [hqueued]
      rcases List.mem_or_eq_of_mem_set hcall with hold | rfl
      · exact List.mem_append_left _ (hsound.submitted call hold sender hsender)
      · obtain rfl := Option.some.inj hsender
        exact List.mem_append_right _ (List.mem_singleton_self _)
    noiseControl := hsound.noiseControl
    announced := hsound.announced }

theorem sound_step (state : State) (action : Action) (next : State) (hsound : Sound state)
    (hstep : step state action = some next) : Sound next := by
  cases action with
  | session action =>
    have hplain : ∀ {session : Session.State},
        Session.step runSession state.session action = some session →
        (∀ payload completion, action ≠ .queue payload completion) →
          Sound { state with session } := fun hsession hclient ↦
      hsound.session_step (hsound.session.step hsession) (queues_step hsession hclient)
    cases action with
    | queue => cases hstep
    | receive frame =>
      obtain ⟨session, hsession, rfl⟩ := Option.map_eq_some_iff.mp hstep
      exact (hplain hsession nofun).store _
    | closeCommands | expire | turn | written | failed | cancel =>
      obtain ⟨session, hsession, rfl⟩ := Option.map_eq_some_iff.mp hstep
      exact hplain hsession nofun
  | call mode =>
    obtain rfl := Option.some.inj hstep
    exact hsound.setNoiseControl mode
  | submit index =>
    simp only [step] at hstep
    split at hstep
    · next mode base payload hindex =>
      obtain ⟨session, hsession, rfl⟩ := Option.map_eq_some_iff.mp hstep
      exact hsound.submit hindex hsession
    · cases hstep
  | broadcast =>
    obtain ⟨-, hnext⟩ := Option.ite_none_left_eq_some.mp hstep
    obtain rfl := Option.some.inj hnext
    exact { hsound with announced := fun _ ↦ rfl }
  | ended =>
    obtain ⟨-, hnext⟩ := Option.ite_none_right_eq_some.mp hstep
    obtain rfl := Option.some.inj hnext
    exact { hsound with
      noiseControl := rfl
      announced := fun hzero ↦ absurd hzero (Nat.succ_ne_zero _) }

/-! ## Acknowledged commands -/

/-- A name that is given at most once names one item. -/
theorem eq_of_named_once {Item Name : Type} {name : Item → Option Name} {items : List Item}
    (hnodup : (items.filterMap name).Nodup) {first second : Item} (hfirst : first ∈ items)
    (hsecond : second ∈ items) {given : Name} (hname : name first = some given)
    (hsame : name second = some given) : first = second := by
  induction items with
  | nil => cases hfirst
  | cons item items ih =>
    have hrest : (items.filterMap name).Nodup :=
      hnodup.sublist ((List.sublist_cons_self item items).filterMap name)
    have hfresh : name item = some given → ∀ other ∈ items, name other ≠ some given := by
      intro hitem other hother hgiven
      rw [List.filterMap_cons_some hitem] at hnodup
      exact (List.nodup_cons.mp hnodup).1 (List.mem_filterMap.mpr ⟨other, hother, hgiven⟩)
    rcases List.mem_cons.mp hfirst with heq | hfirstRest
    · subst heq
      rcases List.mem_cons.mp hsecond with heq | hsecondRest
      · exact heq.symm
      · exact absurd hsame (hfresh hname second hsecondRest)
    · rcases List.mem_cons.mp hsecond with heq | hsecondRest
      · subst heq
        exact absurd hname (hfresh hsame first hfirstRest)
      · exact ih hrest hfirstRest hsecondRest

/-- The command was given to the writer, and then its acknowledgement was accepted. -/
def Acknowledged (log : List Event) (command : Command) : Prop :=
  ∃ before sequence acknowledged after,
    log = before ++ .accepted command acknowledged :: after ∧ .command command sequence ∈ before

theorem acknowledged_of_result {state : State} (hsound : Sound state) {call : Call}
    (hcall : call ∈ state.calls) {sender : ℕ} (hsender : call.sender = some sender)
    (hresult : (sender, .ok ()) ∈ state.session.results) :
    Acknowledged state.session.log ⟨call.payload, some sender⟩ := by
  rw [hsound.session.results_eq] at hresult
  obtain ⟨⟨command, reply⟩, hsettled, hgiven⟩ := List.mem_filterMap.mp hresult
  obtain ⟨done, hdone, hpair⟩ := Option.map_eq_some_iff.mp hgiven
  obtain ⟨rfl, rfl⟩ := Prod.mk.inj hpair
  -- The completion sender names the command.
  have hqueued : command ∈ state.session.queued := by
    obtain ⟨awaiting, hbegun, -⟩ := hsound.session.awaited
    apply hsound.session.begun_inOrder.subset
    rw [hbegun]
    exact List.mem_append_left _ (List.mem_map.mpr ⟨_, hsettled, rfl⟩)
  have hnodup : (state.session.queued.filterMap Command.done).Nodup := by
    rw [hsound.session.senders_eq]
    exact List.nodup_range
  have hmine := hsound.submitted call hcall done hsender
  obtain rfl := eq_of_named_once hnodup hqueued hmine hdone rfl
  obtain ⟨event, hevent, hby⟩ := List.mem_filterMap.mp hsettled
  obtain ⟨sequence, rfl⟩ : ∃ sequence, event = .accepted ⟨call.payload, some done⟩ sequence := by
    cases event with
    | accepted accepted sequence =>
      obtain ⟨rfl, -⟩ := Prod.mk.inj (Option.some.inj hby)
      exact ⟨sequence, rfl⟩
    | timedOut timedOut => cases (Prod.mk.inj (Option.some.inj hby)).2
    | command command sequence => cases hby
    | answer sequence => cases hby
  obtain ⟨before, after, hlog⟩ := List.append_of_mem hevent
  have hallowed := hsound.session.causal before _ after hlog
  have hbegun : (⟨call.payload, some done⟩ : Command) ∈ begun before := by
    rw [hallowed]
    exact List.mem_append_right _ (List.mem_singleton_self _)
  obtain ⟨written, hwritten, hby⟩ := List.mem_filterMap.mp hbegun
  obtain ⟨first, rfl⟩ : ∃ first, written = .command ⟨call.payload, some done⟩ first := by
    cases written with
    | command command first =>
      obtain rfl := Option.some.inj hby
      exact ⟨first, rfl⟩
    | accepted | timedOut | answer => cases hby
  exact ⟨before, first, sequence, after, hlog, hwritten⟩

/-! ## The control -/

/-- The command of a call is the report it rests on with the mode of the call: read as a
notification, it has this mode and keeps every other setting. -/
def Changes (call : Call) : Prop :=
  call.mode ∈ modes ∧ ∃ after, decodeNcAsm (ncAsmNotify :: call.payload.tail) = .ok after ∧
    after.activeMode = some call.mode ∧ after.inquired = call.base.inquired ∧
    after.focusOnVoice = call.base.focusOnVoice ∧ after.level = call.base.level ∧
    after.wind.isSome = call.base.wind.isSome

theorem changes_of_payload {call : Call}
    (hpayload : ncAsmPayload call.base call.mode = .ok call.payload) : Changes call := by
  obtain ⟨enabled, ambient, hmode, hdecode⟩ := decode_ncAsmPayload hpayload
  have hknown : call.mode ∈ modes := (modeFields_isSome call.mode).mp (by rw [hmode]; rfl)
  exact ⟨hknown, _, hdecode, activeMode_withMode hmode, rfl, rfl, rfl, Option.isSome_map⟩

structure Controlled (state : State) : Prop where
  /-- What clients are shown is the last report of a session that is not over, and what they were
  told of unless a broadcast is owed. -/
  shown : state.noiseControl = if state.connected then state.reports.getLast? else none
  announced : state.owed = 0 → state.announced = state.noiseControl
  /-- Nothing is sent but the init request, the queries and the commands of calls. -/
  queued : ∀ command ∈ state.session.queued, Background command ∨ Submitted state.calls command
  calls : ∀ call ∈ state.calls, call.base ∈ state.reports ∧ Changes call
  /-- A call that succeeds had its own command acknowledged, after it was written. -/
  acknowledged : ∀ call ∈ state.calls, ∀ sender, call.sender = some sender →
    (sender, .ok ()) ∈ state.session.results →
      Acknowledged state.session.log ⟨call.payload, some sender⟩

/-- In every run of a session with the calls of its clients, noise control is shown as the
headphones reported it last, and a mode is set by a command that changes nothing else in a report
of the same session and that the headphones acknowledge if the call succeeds. -/
theorem control_acknowledged {state : State} (hreach : system.Reachable state) :
    Controlled state := by
  have hsound : Sound state := hreach.invariant sound_init sound_step
  exact {
    shown := hsound.noiseControl
    announced := hsound.announced
    queued := hsound.queued
    calls := fun call hcall ↦
      ⟨(hsound.calls call hcall).1, changes_of_payload (hsound.calls call hcall).2⟩
    acknowledged := fun call hcall sender hsender hresult ↦
      acknowledged_of_result hsound hcall hsender hresult }

/-- The headphones report that noise is cancelled, and a client asks for the ambient sound. -/
def askingForAmbient : List Action :=
  [.session .turn, .session .written, .session (.receive ⟨ack, 1, []⟩), .session .turn,
    .session (.receive ⟨command, 0, [ncAsmNotify, 0x17, 0x01, 0x01, 0x00, 0x00, 0x14]⟩),
    .broadcast, .call "transparent", .submit 0, .session .turn, .session .written,
    .session .turn, .session .written, .session (.receive ⟨ack, 0, []⟩), .session .turn]

/-- The command is acknowledged. -/
theorem control_acknowledged_ambient :
    ∃ state, system.Reachable state ∧ state.session.results = [(0, .ok ())] ∧
      Controlled state := by
  have hresults : (system.run init askingForAmbient).map (fun state ↦ state.session.results) =
      some [(0, .ok ())] := by
    decide +kernel
  obtain ⟨state, hrun, hresult⟩ := Option.map_eq_some_iff.mp hresults
  exact ⟨state, ⟨_, hrun⟩, hresult, control_acknowledged ⟨_, hrun⟩⟩

end BtDaemon.Sony.Control

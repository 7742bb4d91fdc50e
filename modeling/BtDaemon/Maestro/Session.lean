import BtDaemon.Foundation.Transition
import BtDaemon.Maestro.RuntimeInfo

/-!
# A Maestro session

A session waits for the announcement of an RPC channel, subscribes to runtime info on it, and
stores the battery reports until the channel closes. Packets are taken from the frames of the
last read before the next read is begun, so that reports behind the announcement in one read are
kept over the write of the subscription. What a session did depends on the packets of the byte
stream and how many of them were taken, and not on how the stream was cut into reads.
-/

namespace BtDaemon.Maestro

open Framing (DelimitedFrames)

/-- The packets of a byte stream; corrupt frames are skipped. -/
def packets (bytes : List UInt8) : List Packet :=
  (frameDecoder.run DelimitedFrames.init bytes).2.filterMap Except.toOption

namespace Session

inductive Phase
  | announcing
  /-- The subscription is being written and flushed. -/
  | subscribing (channel : Channel)
  | streaming (channel : Channel)
  | closed (result : Except String Unit)
  deriving DecidableEq

structure State where
  phase : Phase
  decoder : DelimitedFrames
  /-- The frames of the last read that were not taken yet. -/
  pending : List (Except String Packet)
  /-- What was given to the writer. -/
  written : List (List UInt8)
  stored : List Batteries
  /-- Every byte that was read. -/
  received : List UInt8

def init : State := ⟨.announcing, DelimitedFrames.init, [], [], [], []⟩

inductive Action
  | read (bytes : List UInt8)
  | endOfStream
  | readFailed
  /-- The next frame of the last read is looked at. -/
  | take
  /-- `ANNOUNCE_TIMEOUT` is over. -/
  | timedOut
  | subscribed
  | writeFailed
  | flushFailed

def bufferSize : ℕ := 512

/-- `next` reads only when no frame of the last read is left. -/
def Reading (state : State) : Prop :=
  state.pending = [] ∧ (state.phase matches .announcing | .streaming _)

instance (state : State) : Decidable (Reading state) := by
  unfold Reading
  exact inferInstance

def close (state : State) (result : Except String Unit) : State :=
  { state with phase := .closed result }

/-- A packet before the announcement. -/
def await (state : State) (packet : Packet) : State :=
  match announcedChannel packet with
  | none => state
  | some channel =>
    { state with
      phase := .subscribing channel
      written := state.written ++ [subscribeRuntimeInfo channel] }

def endedText (status : UInt32) : String :=
  "Pixel Buds ended the Maestro runtime-info stream with status " ++ toString status

/-- A packet behind the subscription. -/
def follow (state : State) (channel : Channel) (packet : Packet) : State :=
  match subscriptionUpdate packet channel with
  | .ok (.batteries batteries) => { state with stored := state.stored ++ [batteries] }
  | .ok (.ended status) => close state (.error (endedText status))
  | .ok .ignored => state
  | .error _ => state

def take (state : State) : Option State :=
  match state.pending with
  | [] => none
  | frame :: rest =>
    let state := { state with pending := rest }
    match state.phase, frame with
    | .announcing, .ok packet => some (await state packet)
    | .streaming channel, .ok packet => some (follow state channel packet)
    | .announcing, .error _ => some state
    | .streaming _, .error _ => some state
    | _, _ => none

def step (state : State) : Action → Option State
  | .read bytes =>
    if Reading state ∧ bytes ≠ [] ∧ bytes.length ≤ bufferSize then
      let (decoder, frames) := frameDecoder.run state.decoder bytes
      some { state with
        decoder := decoder
        pending := frames
        received := state.received ++ bytes }
    else none
  | .endOfStream =>
    if state.pending = [] then
      match state.phase with
      | .announcing =>
        some (close state (.error "Maestro channel closed before announcing an RPC channel"))
      | .streaming _ => some (close state (.ok ()))
      | _ => none
    else none
  | .readFailed =>
    if Reading state then some (close state (.error "read Maestro channel")) else none
  | .take => take state
  | .timedOut =>
    if state.pending = [] then
      match state.phase with
      | .announcing =>
        some (close state (.error "Pixel Buds did not announce a Maestro RPC channel"))
      | _ => none
    else none
  | .subscribed =>
    match state.phase with
    | .subscribing channel => some { state with phase := .streaming channel }
    | _ => none
  | .writeFailed =>
    match state.phase with
    | .subscribing _ => some (close state (.error "write Maestro runtime-info subscription"))
    | _ => none
  | .flushFailed =>
    match state.phase with
    | .subscribing _ => some (close state (.error "flush Maestro subscription"))
    | _ => none

def system : Transition.System State Action where
  init := init
  step := step

/-! ## What a session makes of the packets it took -/

/-- A packet that completes or rejects the subscription. -/
def ending (channel : Channel) (packet : Packet) : Option UInt32 :=
  match subscriptionUpdate packet channel with
  | .ok (.ended status) => some status
  | _ => none

def report (channel : Channel) (packet : Packet) : Option Batteries :=
  match subscriptionUpdate packet channel with
  | .ok (.batteries batteries) => some batteries
  | _ => none

/-- The packets behind the first announcement, and the channel that it names. -/
def Opened (taken : List Packet) (channel : Channel) (later : List Packet) : Prop :=
  ∃ quiet opening, taken = quiet ++ opening :: later ∧
    (∀ packet ∈ quiet, announcedChannel packet = none) ∧ announcedChannel opening = some channel

/-- What is left to take. -/
def left (state : State) : List Packet := state.pending.filterMap Except.toOption

/-- How far a session has come with the packets that it took. -/
inductive Progress (state : State) (taken : List Packet) : Prop
  | announcing (hphase : state.phase = .announcing)
      (hquiet : ∀ packet ∈ taken, announcedChannel packet = none) (hwritten : state.written = [])
      (hstored : state.stored = [])
  | unannounced (error : String) (hphase : state.phase = .closed (.error error))
      (hquiet : ∀ packet ∈ taken, announcedChannel packet = none) (hwritten : state.written = [])
      (hstored : state.stored = [])
  | subscribing (channel : Channel) (hphase : state.phase = .subscribing channel)
      (hopened : Opened taken channel [])
      (hwritten : state.written = [subscribeRuntimeInfo channel]) (hstored : state.stored = [])
  | streaming (channel : Channel) (later : List Packet) (hphase : state.phase = .streaming channel)
      (hopened : Opened taken channel later)
      (hwritten : state.written = [subscribeRuntimeInfo channel])
      (hstored : state.stored = later.filterMap (report channel))
      (hgoing : ∀ packet ∈ later, ending channel packet = none)
  /-- The last packet that was taken ended the stream. -/
  | ended (channel : Channel) (earlier : List Packet) (last : Packet) (status : UInt32)
      (hphase : state.phase = .closed (.error (endedText status)))
      (hopened : Opened taken channel (earlier ++ [last]))
      (hwritten : state.written = [subscribeRuntimeInfo channel])
      (hstored : state.stored = earlier.filterMap (report channel))
      (hgoing : ∀ packet ∈ earlier, ending channel packet = none)
      (hlast : ending channel last = some status)
  /-- The link ended, or the subscription could not be written. -/
  | closed (channel : Channel) (later : List Packet) (result : Except String Unit)
      (hphase : state.phase = .closed result) (hopened : Opened taken channel later)
      (hwritten : state.written = [subscribeRuntimeInfo channel])
      (hstored : state.stored = later.filterMap (report channel))
      (hgoing : ∀ packet ∈ later, ending channel packet = none)
      (hcomplete : result = .ok () → state.pending = [])

/-- The packets that were read are the ones that were taken and the ones that are left. -/
structure Serves (state : State) : Prop where
  decoder : state.decoder = (frameDecoder.run DelimitedFrames.init state.received).1
  progress : ∃ taken, packets state.received = taken ++ left state ∧ Progress state taken

theorem serves_init : Serves init where
  decoder := rfl
  progress := ⟨[], rfl, .announcing rfl (fun _ hmem ↦ absurd hmem List.not_mem_nil) rfl rfl⟩

theorem packets_append (first second : List UInt8) :
    packets (first ++ second) = packets first ++
      (frameDecoder.run (frameDecoder.run DelimitedFrames.init first).1 second).2.filterMap
        Except.toOption := by
  rw [packets, Transducer.run_append, List.filterMap_append]
  rfl

theorem Opened.append {taken : List Packet} {channel : Channel} {later : List Packet}
    (hopened : Opened taken channel later) (packet : Packet) :
    Opened (taken ++ [packet]) channel (later ++ [packet]) := by
  obtain ⟨quiet, opening, rfl, hquiet, hopening⟩ := hopened
  refine ⟨quiet, opening, ?_, hquiet, hopening⟩
  rw [List.append_assoc, List.cons_append]

/-! ## Steps -/

theorem await_frame (state : State) (packet : Packet) :
    (await state packet).decoder = state.decoder ∧ (await state packet).pending = state.pending ∧
      (await state packet).received = state.received := by
  unfold await
  cases announcedChannel packet with
  | none => exact ⟨rfl, rfl, rfl⟩
  | some channel => exact ⟨rfl, rfl, rfl⟩

/-- What `follow` does with a packet, by what the packet says. -/
theorem follow_cases (state : State) (channel : Channel) (packet : Packet) :
    (∃ status, ending channel packet = some status ∧ report channel packet = none ∧
      follow state channel packet = close state (.error (endedText status))) ∨
    ending channel packet = none ∧ follow state channel packet =
      { state with stored := state.stored ++ (report channel packet).toList } := by
  unfold ending report follow
  cases subscriptionUpdate packet channel with
  | error error => exact .inr ⟨rfl, by simp⟩
  | ok update =>
    cases update with
    | batteries batteries => exact .inr ⟨rfl, rfl⟩
    | ended status => exact .inl ⟨status, rfl, rfl, rfl⟩
    | ignored => exact .inr ⟨rfl, by simp⟩

theorem follow_frame (state : State) (channel : Channel) (packet : Packet) :
    (follow state channel packet).decoder = state.decoder ∧
      (follow state channel packet).pending = state.pending ∧
      (follow state channel packet).received = state.received := by
  rcases follow_cases state channel packet with ⟨status, -, -, hfollow⟩ | ⟨-, hfollow⟩
  · rw [hfollow]
    exact ⟨rfl, rfl, rfl⟩
  · rw [hfollow]
    exact ⟨rfl, rfl, rfl⟩

theorem progress_follow {state : State} {taken later : List Packet} {channel : Channel}
    (hphase : state.phase = .streaming channel) (hopened : Opened taken channel later)
    (hwritten : state.written = [subscribeRuntimeInfo channel])
    (hstored : state.stored = later.filterMap (report channel))
    (hgoing : ∀ packet ∈ later, ending channel packet = none) (packet : Packet) :
    Progress (follow state channel packet) (taken ++ [packet]) := by
  rcases follow_cases state channel packet with ⟨status, hending, -, hfollow⟩ | ⟨hnone, hfollow⟩
  · rw [hfollow]
    exact .ended channel later packet status rfl (hopened.append packet) hwritten hstored hgoing
      hending
  · rw [hfollow]
    refine .streaming channel (later ++ [packet]) hphase (hopened.append packet) hwritten ?_ ?_
    · change state.stored ++ _ = _
      rw [List.filterMap_append, ← hstored]
      cases hreport : report channel packet <;> simp [hreport]
    · intro other hother
      rcases List.mem_append.mp hother with hearlier | hlast
      · exact hgoing other hearlier
      · rw [List.mem_singleton.mp hlast]
        exact hnone

theorem progress_await {state : State} {taken : List Packet} (hphase : state.phase = .announcing)
    (hquiet : ∀ packet ∈ taken, announcedChannel packet = none) (hwritten : state.written = [])
    (hstored : state.stored = []) (packet : Packet) :
    Progress (await state packet) (taken ++ [packet]) := by
  unfold await
  cases hannounced : announcedChannel packet with
  | none =>
    refine .announcing hphase ?_ hwritten hstored
    intro other hother
    rcases List.mem_append.mp hother with hearlier | hlast
    · exact hquiet other hearlier
    · rw [List.mem_singleton.mp hlast]
      exact hannounced
  | some channel =>
    refine .subscribing channel rfl ⟨taken, packet, rfl, hquiet, hannounced⟩ ?_ hstored
    change state.written ++ _ = _
    rw [hwritten]
    rfl

theorem Progress.congr {state next : State} {taken : List Packet} (hprogress : Progress state taken)
    (hopen : ∀ result, state.phase ≠ .closed result) (hphase : next.phase = state.phase)
    (hwritten : next.written = state.written) (hstored : next.stored = state.stored) :
    Progress next taken := by
  cases hprogress with
  | announcing hannouncing hquiet hnothing hempty =>
    exact .announcing (hphase.trans hannouncing) hquiet (hwritten.trans hnothing)
      (hstored.trans hempty)
  | unannounced error hclosed => exact absurd hclosed (hopen _)
  | subscribing channel hsubscribing hopened hone hempty =>
    exact .subscribing channel (hphase.trans hsubscribing) hopened (hwritten.trans hone)
      (hstored.trans hempty)
  | streaming channel later hstreaming hopened hone hreports hgoing =>
    exact .streaming channel later (hphase.trans hstreaming) hopened (hwritten.trans hone)
      (hstored.trans hreports) hgoing
  | ended channel earlier last status hclosed => exact absurd hclosed (hopen _)
  | closed channel later result hclosed => exact absurd hclosed (hopen _)

/-- A session that closes with an error keeps what it did. -/
theorem Progress.close_error {state : State} {taken : List Packet}
    (hprogress : Progress state taken) (hopen : ∀ result, state.phase ≠ .closed result)
    (error : String) : Progress (close state (.error error)) taken := by
  have hcomplete : (Except.error error : Except String Unit) = .ok () → state.pending = [] := by
    intro hok
    cases hok
  cases hprogress with
  | announcing hannouncing hquiet hnothing hempty =>
    exact .unannounced error rfl hquiet hnothing hempty
  | unannounced error hclosed => exact absurd hclosed (hopen _)
  | subscribing channel hsubscribing hopened hone hempty =>
    exact .closed channel [] _ rfl hopened hone hempty
      (fun _ hmem ↦ absurd hmem List.not_mem_nil) hcomplete
  | streaming channel later hstreaming hopened hone hreports hgoing =>
    exact .closed channel later _ rfl hopened hone hreports hgoing hcomplete
  | ended channel earlier last status hclosed => exact absurd hclosed (hopen _)
  | closed channel later result hclosed => exact absurd hclosed (hopen _)

theorem Progress.of_announcing {state : State} {taken : List Packet}
    (hprogress : Progress state taken) (hphase : state.phase = .announcing) :
    (∀ packet ∈ taken, announcedChannel packet = none) ∧ state.written = [] ∧
      state.stored = [] := by
  cases hprogress with
  | announcing _ hquiet hwritten hstored => exact ⟨hquiet, hwritten, hstored⟩
  | unannounced error hother => cases hphase.symm.trans hother
  | subscribing channel hother => cases hphase.symm.trans hother
  | streaming channel later hother => cases hphase.symm.trans hother
  | ended channel earlier last status hother => cases hphase.symm.trans hother
  | closed channel later result hother => cases hphase.symm.trans hother

theorem Progress.of_subscribing {state : State} {taken : List Packet} {channel : Channel}
    (hprogress : Progress state taken) (hphase : state.phase = .subscribing channel) :
    Opened taken channel [] ∧ state.written = [subscribeRuntimeInfo channel] ∧
      state.stored = [] := by
  cases hprogress with
  | announcing hother => cases hphase.symm.trans hother
  | unannounced error hother => cases hphase.symm.trans hother
  | subscribing found hfound hopened hwritten hstored =>
    obtain rfl := Phase.subscribing.inj (hphase.symm.trans hfound)
    exact ⟨hopened, hwritten, hstored⟩
  | streaming found later hother => cases hphase.symm.trans hother
  | ended found earlier last status hother => cases hphase.symm.trans hother
  | closed found later result hother => cases hphase.symm.trans hother

theorem Progress.of_streaming {state : State} {taken : List Packet} {channel : Channel}
    (hprogress : Progress state taken) (hphase : state.phase = .streaming channel) :
    ∃ later, Opened taken channel later ∧ state.written = [subscribeRuntimeInfo channel] ∧
      state.stored = later.filterMap (report channel) ∧
        ∀ packet ∈ later, ending channel packet = none := by
  cases hprogress with
  | announcing hother => cases hphase.symm.trans hother
  | unannounced error hother => cases hphase.symm.trans hother
  | subscribing found hother => cases hphase.symm.trans hother
  | streaming found later hfound hopened hwritten hstored hgoing =>
    obtain rfl := Phase.streaming.inj (hphase.symm.trans hfound)
    exact ⟨later, hopened, hwritten, hstored, hgoing⟩
  | ended found earlier last status hother => cases hphase.symm.trans hother
  | closed found later result hother => cases hphase.symm.trans hother

/-- What a step can do. -/
inductive Moves (state next : State) : Action → Prop
  | read (bytes : List UInt8) (hreading : Reading state)
      (hnext : next = { state with
        decoder := (frameDecoder.run state.decoder bytes).1
        pending := (frameDecoder.run state.decoder bytes).2
        received := state.received ++ bytes }) : Moves state next (.read bytes)
  | drained (hpending : state.pending = []) (channel : Channel)
      (hphase : state.phase = .streaming channel) (hnext : next = close state (.ok ())) :
      Moves state next .endOfStream
  | failed (action : Action) (error : String) (hopen : ∀ result, state.phase ≠ .closed result)
      (hnext : next = close state (.error error)) : Moves state next action
  | skipped (error : String) (rest : List (Except String Packet))
      (hpending : state.pending = .error error :: rest)
      (hopen : ∀ result, state.phase ≠ .closed result)
      (hnext : next = { state with pending := rest }) : Moves state next .take
  | awaited (packet : Packet) (rest : List (Except String Packet))
      (hpending : state.pending = .ok packet :: rest) (hphase : state.phase = .announcing)
      (hnext : next = await { state with pending := rest } packet) : Moves state next .take
  | followed (channel : Channel) (packet : Packet) (rest : List (Except String Packet))
      (hpending : state.pending = .ok packet :: rest) (hphase : state.phase = .streaming channel)
      (hnext : next = follow { state with pending := rest } channel packet) :
      Moves state next .take
  | subscribed (channel : Channel) (hphase : state.phase = .subscribing channel)
      (hnext : next = { state with phase := .streaming channel }) : Moves state next .subscribed

theorem Reading.isOpen {state : State} (hreading : Reading state) (result : Except String Unit) :
    state.phase ≠ .closed result := by
  intro hclosed
  have hphase := hreading.2
  rw [hclosed] at hphase
  cases hphase

theorem take_moves {state next : State} (htake : take state = some next) :
    Moves state next .take := by
  obtain ⟨phase, decoder, pending, written, stored, received⟩ := state
  cases pending with
  | nil => cases htake
  | cons frame rest =>
    cases phase with
    | announcing =>
      cases frame with
      | error error =>
        refine .skipped error rest rfl ?_ (Option.some.inj htake).symm
        intro result hclosed
        cases hclosed
      | ok packet => exact .awaited packet rest rfl rfl (Option.some.inj htake).symm
    | streaming channel =>
      cases frame with
      | error error =>
        refine .skipped error rest rfl ?_ (Option.some.inj htake).symm
        intro result hclosed
        cases hclosed
      | ok packet => exact .followed channel packet rest rfl rfl (Option.some.inj htake).symm
    | subscribing channel => cases htake
    | closed result => cases htake

theorem step_moves {state next : State} {action : Action} (hstep : step state action = some next) :
    Moves state next action := by
  cases action with
  | read bytes =>
    simp only [step, Option.ite_none_right_eq_some] at hstep
    exact .read bytes hstep.1.1 (Option.some.inj hstep.2).symm
  | endOfStream =>
    simp only [step, Option.ite_none_right_eq_some] at hstep
    obtain ⟨hpending, hclose⟩ := hstep
    cases hphase : state.phase <;> simp only [hphase, reduceCtorEq] at hclose
    · exact .failed _ _ (by simp [hphase]) (Option.some.inj hclose).symm
    · exact .drained hpending _ hphase (Option.some.inj hclose).symm
  | readFailed =>
    simp only [step, Option.ite_none_right_eq_some] at hstep
    exact .failed _ _ hstep.1.isOpen (Option.some.inj hstep.2).symm
  | take => exact take_moves hstep
  | timedOut =>
    simp only [step, Option.ite_none_right_eq_some] at hstep
    obtain ⟨hpending, hclose⟩ := hstep
    cases hphase : state.phase <;> simp only [hphase, reduceCtorEq] at hclose
    exact .failed _ _ (by simp [hphase]) (Option.some.inj hclose).symm
  | subscribed =>
    simp only [step] at hstep
    cases hphase : state.phase <;> simp only [hphase, reduceCtorEq] at hstep
    exact .subscribed _ hphase (Option.some.inj hstep).symm
  | writeFailed =>
    simp only [step] at hstep
    cases hphase : state.phase <;> simp only [hphase, reduceCtorEq] at hstep
    exact .failed _ _ (by simp [hphase]) (Option.some.inj hstep).symm
  | flushFailed =>
    simp only [step] at hstep
    cases hphase : state.phase <;> simp only [hphase, reduceCtorEq] at hstep
    exact .failed _ _ (by simp [hphase]) (Option.some.inj hstep).symm

theorem serves_step (state : State) (action : Action) (next : State) (hserves : Serves state)
    (hstep : step state action = some next) : Serves next := by
  obtain ⟨hdecoder, taken, hpackets, hprogress⟩ := hserves
  cases step_moves hstep with
  | read bytes hreading hnext =>
    subst hnext
    have hleft : left state = [] := by rw [left, hreading.1]; rfl
    constructor
    · change _ = (frameDecoder.run DelimitedFrames.init (state.received ++ bytes)).1
      rw [Transducer.run_append, ← hdecoder]
    · refine ⟨taken, ?_, hprogress.congr hreading.isOpen rfl rfl rfl⟩
      change packets (state.received ++ bytes) = _
      rw [packets_append, ← hdecoder, hpackets, hleft, List.append_nil]
      rfl
  | drained hpending channel hphase hnext =>
    subst hnext
    refine ⟨hdecoder, taken, hpackets, ?_⟩
    obtain ⟨later, hopened, hwritten, hstored, hgoing⟩ := hprogress.of_streaming hphase
    exact .closed channel later _ rfl hopened hwritten hstored hgoing fun _ ↦ hpending
  | failed _ error hopen hnext =>
    subst hnext
    exact ⟨hdecoder, taken, hpackets, hprogress.close_error hopen error⟩
  | skipped error rest hpending hopen hnext =>
    subst hnext
    refine ⟨hdecoder, taken, ?_, hprogress.congr hopen rfl rfl rfl⟩
    rw [left, hpending] at hpackets
    exact hpackets
  | awaited packet rest hpending hphase hnext =>
    subst hnext
    obtain ⟨hquiet, hwritten, hstored⟩ := hprogress.of_announcing hphase
    obtain ⟨hsameDecoder, hsamePending, hsameReceived⟩ :=
      await_frame { state with pending := rest } packet
    have hnext := @progress_await { state with pending := rest } taken hphase hquiet hwritten
      hstored packet
    refine ⟨?_, taken ++ [packet], ?_, hnext⟩
    · rw [hsameDecoder, hsameReceived]
      exact hdecoder
    · rw [left, hpending] at hpackets
      rw [left, hsamePending, hsameReceived, List.append_assoc]
      exact hpackets
  | followed channel packet rest hpending hphase hnext =>
    subst hnext
    obtain ⟨later, hopened, hwritten, hstored, hgoing⟩ := hprogress.of_streaming hphase
    obtain ⟨hsameDecoder, hsamePending, hsameReceived⟩ :=
      follow_frame { state with pending := rest } channel packet
    have hnext := @progress_follow { state with pending := rest } taken later channel hphase
      hopened hwritten hstored hgoing packet
    refine ⟨?_, taken ++ [packet], ?_, hnext⟩
    · rw [hsameDecoder, hsameReceived]
      exact hdecoder
    · rw [left, hpending] at hpackets
      rw [left, hsamePending, hsameReceived, List.append_assoc]
      exact hpackets
  | subscribed channel hphase hnext =>
    subst hnext
    obtain ⟨hopened, hwritten, hstored⟩ := hprogress.of_subscribing hphase
    refine ⟨hdecoder, taken, hpackets, .streaming channel [] rfl hopened hwritten hstored ?_⟩
    intro packet hmem
    cases hmem

theorem serves_of_run {state : State} {actions : List Action}
    (hrun : system.run init actions = some state) : Serves state :=
  system.run_invariant serves_step serves_init hrun

/-- The reports of a session are those behind the first announcement, in order; it subscribes
once, on the channel that was announced. -/
def Reported (state : State) (taken : List Packet) : Prop :=
  (∀ packet ∈ taken, announcedChannel packet = none) ∧ state.written = [] ∧ state.stored = [] ∨
  ∃ channel later, Opened taken channel later ∧
    state.written = [subscribeRuntimeInfo channel] ∧
    state.stored = later.filterMap (report channel) ∧
    ∀ packet ∈ later.dropLast, ending channel packet = none

theorem report_eq_none_of_ending {channel : Channel} {packet : Packet} {status : UInt32}
    (hending : ending channel packet = some status) : report channel packet = none := by
  unfold ending at hending
  unfold report
  cases hupdate : subscriptionUpdate packet channel with
  | error error => rfl
  | ok update =>
    cases update with
    | batteries batteries =>
      rw [hupdate] at hending
      cases hending
    | ended status => rfl
    | ignored => rfl

theorem Progress.reported {state : State} {taken : List Packet} (hprogress : Progress state taken) :
    Reported state taken := by
  have hdrop : ∀ {channel : Channel} {later : List Packet},
      (∀ packet ∈ later, ending channel packet = none) →
        ∀ packet ∈ later.dropLast, ending channel packet = none :=
    fun hgoing packet hmem ↦ hgoing packet (List.mem_of_mem_dropLast hmem)
  cases hprogress with
  | announcing _ hquiet hwritten hstored => exact .inl ⟨hquiet, hwritten, hstored⟩
  | unannounced error _ hquiet hwritten hstored => exact .inl ⟨hquiet, hwritten, hstored⟩
  | subscribing channel _ hopened hwritten hstored =>
    exact .inr ⟨channel, [], hopened, hwritten, hstored, fun _ hmem ↦ by cases hmem⟩
  | streaming channel later _ hopened hwritten hstored hgoing =>
    exact .inr ⟨channel, later, hopened, hwritten, hstored, hdrop hgoing⟩
  | ended channel earlier last status _ hopened hwritten hstored hgoing hlast =>
    refine .inr ⟨channel, earlier ++ [last], hopened, hwritten, ?_, ?_⟩
    · have hnone : [last].filterMap (report channel) = [] := by
        rw [List.filterMap_cons, report_eq_none_of_ending hlast]
        rfl
      rw [List.filterMap_append, hnone, List.append_nil]
      exact hstored
    · rw [List.dropLast_concat]
      exact hgoing
  | closed channel later result _ hopened hwritten hstored hgoing _ =>
    exact .inr ⟨channel, later, hopened, hwritten, hstored, hdrop hgoing⟩

end Session

end BtDaemon.Maestro

import BtDaemon.Maestro.Session

/-!
# Delivery of battery reports

From the bytes that the buds write to the reports that are stored: the announcement may stand
behind noise and other packets, the reports among packets of other calls, and the stream may be
cut into any reads. Such a stream can be read to its end, and every session that read it to its
end has subscribed once and has stored the reports in order.
-/

namespace BtDaemon.Maestro

open Framing (DelimitedFrames maxFrame)

/-! ## Frames of small packets -/

theorem length_putAddress (count : ℕ) (address : UInt32)
    (haddress : address.toNat < 128 ^ (count + 1)) :
    (putAddress address).length ≤ count + 1 := by
  induction count generalizing address with
  | zero =>
    have hzero : address >>> 7 = 0 := by
      apply UInt32.toNat_inj.mp
      rw [toNat_address_shift]
      exact Nat.div_eq_of_lt (by omega)
    rw [putAddress, if_neg (not_not.mpr hzero)]
    exact Nat.le_refl 1
  | succ count ih =>
    rw [putAddress]
    split
    · rw [List.length_cons]
      apply Nat.succ_le_succ
      apply ih
      rw [toNat_address_shift]
      apply Nat.div_lt_of_lt_mul
      rw [← pow_succ']
      exact haddress
    · exact Nat.le_add_left 1 _

theorem length_varint (field : UInt64) (value : UInt32) : (varint field value).length ≤ 20 := by
  have hkey := (isVarint_putVarint (field <<< 3)).short
  have hvalue := (isVarint_putVarint value.toUInt64).short
  rw [varint]
  split
  · rw [List.length_append]
    omega
  · exact Nat.zero_le _

theorem length_fixed32 (field : UInt64) (value : UInt32) : (fixed32 field value).length ≤ 14 := by
  have hkey := (isVarint_putVarint (field <<< 3 ||| 5)).short
  rw [fixed32]
  split
  · rw [List.length_append, Endian.length_toLe]
    omega
  · exact Nat.zero_le _

theorem length_encodePacket (packet : Packet) :
    (encodePacket packet).length ≤ 128 + packet.payload.length := by
  have hpayload : (if packet.payload ≠ [] then
      putVarint ((5 : UInt64) <<< 3 ||| 2) ++ putVarint (.ofNat packet.payload.length) ++
        packet.payload
      else []).length ≤ 20 + packet.payload.length := by
    have hkey := (isVarint_putVarint ((5 : UInt64) <<< 3 ||| 2)).short
    have hsize := (isVarint_putVarint (.ofNat packet.payload.length)).short
    split
    · simp only [List.length_append]
      omega
    · exact Nat.zero_le _
  have hkind := length_varint 1 packet.kind
  have hchannel := length_varint 2 packet.channel
  have hservice := length_fixed32 3 packet.service
  have hmethod := length_fixed32 4 packet.method
  have hstatus := length_varint 6 packet.status
  have hcall := length_varint 7 packet.call
  simp only [encodePacket, List.length_append]
  omega

theorem length_stuffed (address : UInt32) (packet : Packet) :
    (stuffing.stuff (body address (encodePacket packet))).length ≤
      2 * (138 + packet.payload.length) := by
  have haddress : (putAddress address).length ≤ 4 + 1 := by
    apply length_putAddress
    exact Nat.lt_trans address.toNat_lt (by decide)
  have hbody : (body address (encodePacket packet)).length =
      (putAddress address).length + 1 + (encodePacket packet).length + 4 := by
    simp only [body, content, List.length_append, Endian.length_toLe, List.length_singleton]
  have hstuff := stuffing.length_stuff_le (body address (encodePacket packet))
  have hpacket := length_encodePacket packet
  omega

/-- A small packet fits into a frame. -/
theorem stuffed_fits (address : UInt32) {packet : Packet} (hsmall : packet.payload.length ≤ 1900) :
    (stuffing.stuff (body address (encodePacket packet))).length ≤ maxFrame - 1 := by
  have hlength := length_stuffed address packet
  rw [maxFrame]
  omega

/-- The packet of a frame is read back. -/
theorem packets_encodeFrame (address : UInt32) {packet : Packet}
    (hsmall : packet.payload.length ≤ 1900) :
    packets (encodeFrame address (encodePacket packet)) = [packet] := by
  have hfits := stuffed_fits address hsmall
  have hfree := stuffing.free_stuff (body address (encodePacket packet))
  have hframe := @DelimitedFrames.run_frame _ (flag, flag) "Maestro" decodeFrame _
    (fun byte hmem ↦ (hfree byte hmem).2) hfits
  rw [DelimitedFrames.frames, if_pos (Or.inr (stuff_ne_nil address _)), decode_sent hfits]
    at hframe
  rw [packets, encodeFrame_eq]
  change (frameDecoder.run DelimitedFrames.init
    (flag :: stuffing.stuff (body address (encodePacket packet)) ++ [flag])).2.filterMap _ = _
  rw [show frameDecoder.run DelimitedFrames.init
    (flag :: stuffing.stuff (body address (encodePacket packet)) ++ [flag]) = _ from hframe]
  rfl

theorem packets_of_sent {wire : List UInt8} {sent : List (UInt32 × Packet)}
    (hsent : Sent wire sent) : packets wire = sent.map Prod.snd := by
  have hall : ∀ sent : List (UInt32 × Packet),
      (sent.map fun pair ↦ (.ok pair.2 : Except String Packet)).filterMap Except.toOption =
        sent.map Prod.snd := by
    intro sent
    rw [List.filterMap_map]
    exact congrFun List.filterMap_eq_map sent
  cases hsent with
  | noise hnoise => rw [packets, run_noise hnoise]; rfl
  | frames hnoise hrest =>
    have hopen : frameDecoder.step DelimitedFrames.init flag = (⟨[], true⟩, []) := rfl
    rw [packets, Transducer.run_append, run_noise hnoise, Transducer.run_cons, hopen,
      run_follows hrest]
    exact hall sent

namespace Session

/-- No packet of the stream ends the subscription. -/
def Calm (received : List Packet) : Prop :=
  ∀ channel later, Opened received channel later → ∀ packet ∈ later, ending channel packet = none

theorem Opened.append_right {taken : List Packet} {channel : Channel} {later : List Packet}
    (hopened : Opened taken channel later) (rest : List Packet) :
    Opened (taken ++ rest) channel (later ++ rest) := by
  obtain ⟨quiet, opening, rfl, hquiet, hopening⟩ := hopened
  refine ⟨quiet, opening, ?_, hquiet, hopening⟩
  rw [List.append_assoc, List.cons_append]

/-- The first announcement of a stream is one. -/
theorem Opened.unique {taken : List Packet} {channel other : Channel} {later rest : List Packet}
    (hopened : Opened taken channel later) (hother : Opened taken other rest) :
    channel = other ∧ later = rest := by
  obtain ⟨quiet, opening, rfl, hquiet, hopening⟩ := hopened
  obtain ⟨quiet', opening', htaken, hquiet', hopening'⟩ := hother
  induction quiet generalizing quiet' with
  | nil =>
    cases quiet' with
    | nil =>
      obtain ⟨rfl, rfl⟩ := List.cons.inj htaken
      exact ⟨Option.some.inj (hopening.symm.trans hopening'), rfl⟩
    | cons first earlier =>
      obtain ⟨rfl, -⟩ := List.cons.inj htaken
      have hnone := hquiet' opening List.mem_cons_self
      rw [hopening] at hnone
      cases hnone
  | cons first earlier ih =>
    cases quiet' with
    | nil =>
      obtain ⟨rfl, -⟩ := List.cons.inj htaken
      have hnone := hquiet first List.mem_cons_self
      rw [hopening'] at hnone
      cases hnone
    | cons first' earlier' =>
      obtain ⟨rfl, htail⟩ := List.cons.inj htaken
      exact ih (fun packet hmem ↦ hquiet packet (List.mem_cons_of_mem _ hmem)) earlier' htail
        fun packet hmem ↦ hquiet' packet (List.mem_cons_of_mem _ hmem)

/-- The bytes of the reads among the actions. -/
def reads (actions : List Action) : List (List UInt8) :=
  actions.filterMap fun
    | .read bytes => some bytes
    | _ => none

/-- The session waits for a packet. -/
def Waiting (phase : Phase) : Prop :=
  phase = .announcing ∨ ∃ channel, phase = .streaming channel

theorem Reading.waiting {state : State} (hreading : Reading state) : Waiting state.phase := by
  have hphase := hreading.2
  cases hcase : state.phase with
  | announcing => exact .inl rfl
  | streaming channel => exact .inr ⟨channel, rfl⟩
  | subscribing channel => rw [hcase] at hphase; cases hphase
  | closed result => rw [hcase] at hphase; cases hphase

theorem Waiting.reading {state : State} (hwaiting : Waiting state.phase)
    (hpending : state.pending = []) : Reading state := by
  refine ⟨hpending, ?_⟩
  rcases hwaiting with hphase | ⟨channel, hphase⟩
  · rw [hphase]
  · rw [hphase]

/-- The next frame of a calm stream is taken, and the session waits for the one behind it. -/
theorem take_waiting {state : State} (hserves : Serves state) (hwaiting : Waiting state.phase)
    (hcalm : Calm (packets state.received)) {frame : Except String Packet}
    {rest : List (Except String Packet)} (hpending : state.pending = frame :: rest) :
    ∃ actions next, system.run state actions = some next ∧ reads actions = [] ∧
      next.pending = rest ∧ next.received = state.received ∧ Waiting next.phase := by
  obtain ⟨phase, decoder, pending, written, stored, received⟩ := state
  obtain rfl : pending = frame :: rest := hpending
  rcases hwaiting with hphase | ⟨channel, hphase⟩
  · obtain rfl : phase = .announcing := hphase
    cases frame with
    | error error => exact ⟨[.take], _, rfl, rfl, rfl, rfl, .inl rfl⟩
    | ok packet =>
      cases hannounced : announcedChannel packet with
      | none =>
        have hawait : await ⟨.announcing, decoder, rest, written, stored, received⟩ packet =
            ⟨.announcing, decoder, rest, written, stored, received⟩ := by
          rw [await, hannounced]
        exact ⟨[.take], _, congrArg some hawait, rfl, rfl, rfl, .inl rfl⟩
      | some channel =>
        have hawait : await ⟨.announcing, decoder, rest, written, stored, received⟩ packet =
            ⟨.subscribing channel, decoder, rest, written ++ [subscribeRuntimeInfo channel],
              stored, received⟩ := by
          rw [await, hannounced]
        refine ⟨[.take, .subscribed], ⟨.streaming channel, decoder, rest,
          written ++ [subscribeRuntimeInfo channel], stored, received⟩, ?_, rfl, rfl, rfl,
          .inr ⟨channel, rfl⟩⟩
        apply (system.run_cons_eq_some).mpr
        exact ⟨_, congrArg some hawait, rfl⟩
  · obtain rfl : phase = .streaming channel := hphase
    cases frame with
    | error error => exact ⟨[.take], _, rfl, rfl, rfl, rfl, .inr ⟨channel, rfl⟩⟩
    | ok packet =>
      obtain ⟨-, taken, hpackets, hprogress⟩ := hserves
      obtain ⟨later, hopened, -⟩ := hprogress.of_streaming rfl
      have hnone : ending channel packet = none := by
        apply hcalm channel (later ++ packet :: rest.filterMap Except.toOption)
        · change packets received = taken ++ (packet :: rest.filterMap Except.toOption)
            at hpackets
          rw [hpackets]
          exact hopened.append_right _
        · exact List.mem_append_right later List.mem_cons_self
      rcases follow_cases ⟨.streaming channel, decoder, rest, written, stored, received⟩ channel
        packet with ⟨status, hending, -⟩ | ⟨-, hfollow⟩
      · rw [hnone] at hending
        cases hending
      · exact ⟨[.take], _, congrArg some hfollow, rfl, rfl, rfl, .inr ⟨channel, rfl⟩⟩

theorem reads_append (first second : List Action) :
    reads (first ++ second) = reads first ++ reads second :=
  List.filterMap_append

/-- In a calm stream every frame that was read is taken. -/
theorem drain {state : State} (hserves : Serves state) (hwaiting : Waiting state.phase)
    (hcalm : Calm (packets state.received)) :
    ∃ actions next, system.run state actions = some next ∧ reads actions = [] ∧ Reading next ∧
      next.received = state.received := by
  induction hpending : state.pending generalizing state with
  | nil => exact ⟨[], state, rfl, rfl, hwaiting.reading hpending, rfl⟩
  | cons frame rest ih =>
    obtain ⟨steps, middle, hsteps, hquiet, hrest, hsame, hmiddle⟩ :=
      take_waiting hserves hwaiting hcalm hpending
    have hserving := system.run_invariant serves_step hserves hsteps
    rw [← hsame] at hcalm
    obtain ⟨actions, next, hrun, hnothing, hreading, hreceived⟩ := ih hserving hmiddle hcalm hrest
    refine ⟨steps ++ actions, next, system.run_append hsteps hrun, ?_, hreading,
      hreceived.trans hsame⟩
    rw [reads_append, hquiet, hnothing]
    rfl

theorem Calm.prefix {first second : List Packet} (hcalm : Calm (first ++ second)) : Calm first := by
  intro channel later hopened packet hmem
  exact hcalm channel (later ++ second) (hopened.append_right second) packet
    (List.mem_append_left second hmem)

/-- A calm stream can be read to its end, however it is cut. -/
theorem exists_read {state : State} (hserves : Serves state) (hreading : Reading state)
    (chunks : List (List UInt8))
    (hchunks : ∀ chunk ∈ chunks, chunk ≠ [] ∧ chunk.length ≤ bufferSize)
    (hcalm : Calm (packets (state.received ++ chunks.flatten))) :
    ∃ actions next, system.run state actions = some next ∧ reads actions = chunks ∧
      Reading next ∧ next.received = state.received ++ chunks.flatten := by
  induction chunks generalizing state with
  | nil => exact ⟨[], state, rfl, rfl, hreading, (List.append_nil _).symm⟩
  | cons chunk rest ih =>
    obtain ⟨hne, hfits⟩ := hchunks chunk List.mem_cons_self
    rw [List.flatten_cons, ← List.append_assoc] at hcalm ⊢
    have hread : step state (.read chunk) = some { state with
        decoder := (frameDecoder.run state.decoder chunk).1
        pending := (frameDecoder.run state.decoder chunk).2
        received := state.received ++ chunk } := by
      simp only [step, if_pos (⟨hreading, hne, hfits⟩ : Reading state ∧ chunk ≠ [] ∧ _)]
    have hfirst := serves_step state _ _ hserves hread
    have hcalmFirst : Calm (packets (state.received ++ chunk)) := by
      rw [packets_append] at hcalm
      exact hcalm.prefix
    obtain ⟨actions, middle, hdrain, hnothing, hmiddle, hreceived⟩ :=
      drain hfirst hreading.waiting hcalmFirst
    have hserving := system.run_invariant serves_step hfirst hdrain
    rw [← show middle.received = state.received ++ chunk from hreceived] at hcalm ⊢
    obtain ⟨later, next, hrun, hrest, hnext, hall⟩ := ih hserving hmiddle
      (fun other hmem ↦ hchunks other (List.mem_cons_of_mem chunk hmem)) hcalm
    refine ⟨.read chunk :: (actions ++ later), next, ?_, ?_, hnext, hall⟩
    · exact (system.run_cons_eq_some).mpr ⟨_, hread, system.run_append hdrain hrun⟩
    · calc reads (.read chunk :: (actions ++ later))
          = chunk :: (reads actions ++ reads later) := congrArg _ (reads_append actions later)
        _ = chunk :: rest := by rw [hnothing, hrest, List.nil_append]

/-! ## What the buds send -/

/-- A packet of the subscription's stream. -/
def streamed (channel : Channel) (payload : List UInt8) : Packet :=
  { Packet.default with
    kind := serverStream
    channel := channel.id
    service := maestroService
    method := subscribeRuntimeInfoMethod
    payload := payload
    call := subscribeCall }

/-- Battery reports among packets that do not belong to the subscription. -/
inductive Traffic (channel : Channel) : List Packet → List Batteries → Prop
  | nil : Traffic channel [] []
  | stream {batteries : Batteries} {later : List Packet} {reports : List Batteries}
      (hrange : batteries.InRange) (hlater : Traffic channel later reports) :
      Traffic channel (streamed channel (Fixtures.runtimeInfo batteries.written) :: later)
        (batteries :: reports)
  | other {packet : Packet} {later : List Packet} {reports : List Batteries}
      (hother : (packet.channel, packet.service, packet.method, packet.call) ≠
        (channel.id, maestroService, subscribeRuntimeInfoMethod, subscribeCall))
      (hlater : Traffic channel later reports) : Traffic channel (packet :: later) reports

theorem update_streamed {channel : Channel} {batteries : Batteries} (hrange : batteries.InRange) :
    subscriptionUpdate (streamed channel (Fixtures.runtimeInfo batteries.written)) channel =
      .ok (.batteries batteries) := by
  have hupdate : subscriptionUpdate (streamed channel (Fixtures.runtimeInfo batteries.written))
      channel = (runtimeBatteries (Fixtures.runtimeInfo batteries.written)).map
        fun found ↦ found.elim .ignored .batteries := by
    rw [subscriptionUpdate, if_neg, if_pos]
    · rfl
    · rfl
    · exact not_not.mpr rfl
  rw [hupdate, runtimeBatteries_runtimeInfo hrange]
  rfl

theorem update_other {channel : Channel} {packet : Packet}
    (hother : (packet.channel, packet.service, packet.method, packet.call) ≠
      (channel.id, maestroService, subscribeRuntimeInfoMethod, subscribeCall)) :
    subscriptionUpdate packet channel = .ok .ignored := by
  rw [subscriptionUpdate, if_pos hother]

/-- The reports of such traffic are read, and nothing in it ends the subscription. -/
theorem Traffic.reports {channel : Channel} {later : List Packet} {reports : List Batteries}
    (htraffic : Traffic channel later reports) :
    later.filterMap (report channel) = reports ∧
      ∀ packet ∈ later, ending channel packet = none := by
  induction htraffic with
  | nil => exact ⟨rfl, fun _ hmem ↦ absurd hmem List.not_mem_nil⟩
  | @stream batteries later reports hrange hlater ih =>
    have hupdate := @update_streamed channel batteries hrange
    constructor
    · rw [List.filterMap_cons, ih.1, report, hupdate]
    · refine List.forall_mem_cons.mpr ⟨?_, ih.2⟩
      rw [ending, hupdate]
  | other hother hlater ih =>
    have hupdate := update_other hother
    constructor
    · rw [List.filterMap_cons, ih.1, report, hupdate]
    · refine List.forall_mem_cons.mpr ⟨?_, ih.2⟩
      rw [ending, hupdate]

/-! ## From the wire to the reports -/

theorem received_step {state next : State} {action : Action}
    (hstep : step state action = some next) :
    next.received = state.received ++ (reads [action]).flatten := by
  have hsame : ∀ {other : State}, other.received = state.received → reads [action] = [] →
      other.received = state.received ++ (reads [action]).flatten := by
    intro other hother hnothing
    rw [hother, hnothing]
    exact (List.append_nil _).symm
  cases step_moves hstep with
  | read bytes hreading hnext =>
    subst hnext
    change state.received ++ bytes = state.received ++ (bytes ++ [])
    rw [List.append_nil]
  | drained hpending channel hphase hnext => exact hsame (by rw [hnext]; rfl) rfl
  | failed _ error hopen hnext =>
    cases action with
    | read bytes =>
      simp only [step, Option.ite_none_right_eq_some] at hstep
      rw [← Option.some.inj hstep.2]
      exact congrArg _ (List.append_nil bytes).symm
    | _ => exact hsame (by rw [hnext]; rfl) rfl
  | skipped error rest hpending hopen hnext => exact hsame (by rw [hnext]) rfl
  | awaited packet rest hpending hphase hnext =>
    exact hsame (by rw [hnext]; exact (await_frame _ packet).2.2) rfl
  | followed channel packet rest hpending hphase hnext =>
    exact hsame (by rw [hnext]; exact (follow_frame _ channel packet).2.2) rfl
  | subscribed channel hphase hnext => exact hsame (by rw [hnext]) rfl

theorem received_eq {actions : List Action} {state : State}
    (hrun : system.run init actions = some state) : state.received = (reads actions).flatten := by
  apply @Transition.System.run_history _ _ system
    (fun history state ↦ state.received = (reads history).flatten) _ _ _ _ rfl hrun
  intro history state action next hholds hstep
  rw [received_step hstep, hholds, reads_append, List.flatten_append]

theorem packets_subscribe (channel : Channel) :
    packets (subscribeRuntimeInfo channel) = [subscription channel] :=
  packets_encodeFrame channel.address (Nat.zero_le 1900)

theorem Opened.findSome {taken : List Packet} {channel : Channel} {later : List Packet}
    (hopened : Opened taken channel later) : taken.findSome? announcedChannel = some channel := by
  obtain ⟨quiet, opening, rfl, hquiet, hopening⟩ := hopened
  rw [List.findSome?_append, List.findSome?_eq_none_iff.mpr hquiet, Option.none_or,
    List.findSome?_cons, hopening]

/-- The peer reads the subscription, if a channel was announced, and nothing else. -/
theorem Reported.subscribed {state : State} {taken : List Packet}
    (hreported : Reported state taken) :
    packets state.written.flatten =
      ((taken.findSome? announcedChannel).map subscription).toList := by
  rcases hreported with ⟨hquiet, hwritten, -⟩ | ⟨channel, later, hopened, hwritten, -⟩
  · rw [hwritten, List.findSome?_eq_none_iff.mpr hquiet]
    rfl
  · rw [hwritten, hopened.findSome, List.flatten_cons, List.flatten_nil, List.append_nil,
      packets_subscribe]
    rfl

theorem Progress.complete {state : State} {taken : List Packet} (hprogress : Progress state taken)
    (hclosed : state.phase = .closed (.ok ())) :
    state.pending = [] ∧ ∃ channel later, Opened taken channel later ∧
      ∀ packet ∈ later, ending channel packet = none := by
  cases hprogress with
  | announcing hother => cases hclosed.symm.trans hother
  | unannounced error hother => cases hclosed.symm.trans hother
  | subscribing channel hother => cases hclosed.symm.trans hother
  | streaming channel later hother => cases hclosed.symm.trans hother
  | ended channel earlier last status hother => cases hclosed.symm.trans hother
  | closed channel later result hother hopened hwritten hstored hgoing hcomplete =>
    obtain rfl := Phase.closed.inj (hclosed.symm.trans hother)
    exact ⟨hcomplete rfl, channel, later, hopened, hgoing⟩

/-- In every run the packets that were read split into those that were taken and those that are
left; the session subscribed once, on the first channel that was announced, has stored the
reports behind the announcement in order, and took everything if the channel was closed. -/
theorem session_reports {actions : List Action} {state : State}
    (hrun : system.run init actions = some state) :
    ∃ taken, packets (reads actions).flatten = taken ++ left state ∧ Reported state taken ∧
      packets state.written.flatten =
        ((taken.findSome? announcedChannel).map subscription).toList ∧
      (state.phase = .closed (.ok ()) → taken = packets (reads actions).flatten ∧
        ∃ channel later, Opened taken channel later ∧
          ∀ packet ∈ later, ending channel packet = none) := by
  obtain ⟨-, taken, hpackets, hprogress⟩ := serves_of_run hrun
  rw [received_eq hrun] at hpackets
  refine ⟨taken, hpackets, hprogress.reported, hprogress.reported.subscribed, ?_⟩
  intro hclosed
  obtain ⟨hpending, hopened⟩ := hprogress.complete hclosed
  rw [left, hpending] at hpackets
  exact ⟨(hpackets.trans (List.append_nil taken)).symm, hopened⟩

/-- The report of a docked bud. -/
def docked : Batteries := ⟨none, none, some ⟨43, some false⟩⟩

/-- The channel of the right bud. -/
def rightBud : Channel := ⟨26, (maestroB <<< 6) ||| (rightBtCore <<< 10)⟩

/-- The announcement of a channel and the report of a docked bud, as the buds send them. -/
def dockedWire : List UInt8 :=
  [0x7e, 0x01, 0x03, 0x08, 0x01, 0x10, 0x1a, 0x1d, 0xea, 0x71, 0xde, 0x7d, 0x5e, 0x25, 0x44, 0xfa,
    0x99, 0x71, 0x2a, 0x02, 0x0a, 0x00, 0x38, 0xff, 0xff, 0xff, 0xff, 0x0f, 0x56, 0xb1, 0x77, 0x0e,
    0x7e, 0x01, 0x03, 0x08, 0x07, 0x10, 0x1a, 0x1d, 0xea, 0x71, 0xde, 0x7d, 0x5e, 0x25, 0x90, 0x82,
    0x1e, 0xe6, 0x2a, 0x0b, 0x10, 0x96, 0x01, 0x32, 0x06, 0x0a, 0x04, 0x08, 0x2b, 0x10, 0x01, 0x52,
    0xc8, 0x5e, 0x80, 0x7e]

/-- Both are in one read, and the report is taken when the subscription was written. -/
def dockedRun : List Action := [.read dockedWire, .take, .subscribed, .take, .endOfStream]

theorem session_reports_docked :
    ∃ state, system.run init dockedRun = some state ∧ state.phase = .closed (.ok ()) ∧
      state.stored = [docked] ∧ Reported state (packets dockedWire) ∧
      packets state.written.flatten = [subscription rightBud] := by
  have hran : (system.run init dockedRun).map (fun state ↦ (state.phase, state.stored)) =
      some (.closed (.ok ()), [docked]) := by
    decide +kernel
  have hopened : (packets dockedWire).findSome? announcedChannel = some rightBud := by
    decide +kernel
  obtain ⟨state, hrun, hend⟩ := Option.map_eq_some_iff.mp hran
  obtain ⟨hclosed, hstored⟩ := Prod.mk.inj hend
  obtain ⟨taken, -, hreported, hwritten, hcomplete⟩ := session_reports hrun
  obtain ⟨htaken, -⟩ := hcomplete hclosed
  have hreads : (reads dockedRun).flatten = dockedWire := List.append_nil dockedWire
  rw [htaken, hreads] at hreported hwritten
  rw [hopened] at hwritten
  exact ⟨state, hrun, hclosed, hstored, hreported, hwritten⟩

/-- A session that has taken every packet of an announced stream can close it. -/
theorem exists_close {state : State} (hserves : Serves state) (hreading : Reading state)
    {channel : Channel} {later : List Packet}
    (hopened : Opened (packets state.received) channel later) :
    ∃ next, step state .endOfStream = some next ∧ next.phase = .closed (.ok ()) := by
  obtain ⟨-, taken, hpackets, hprogress⟩ := hserves
  rw [left, hreading.1] at hpackets
  change packets state.received = taken ++ [] at hpackets
  rw [List.append_nil] at hpackets
  rcases hreading.waiting with hphase | ⟨found, hphase⟩
  · obtain ⟨hquiet, -, -⟩ := hprogress.of_announcing hphase
    have hsome := hopened.findSome
    rw [hpackets, List.findSome?_eq_none_iff.mpr hquiet] at hsome
    cases hsome
  · refine ⟨close state (.ok ()), ?_, rfl⟩
    simp only [step, if_pos hreading.1, hphase]

/-- Battery reports behind an announcement, in frames on a noisy wire that is cut into any reads:
the session can read them to the end, and each one that did stored exactly these reports and
subscribed once. -/
theorem session_delivers {channel : Channel} {opening : Packet} {quiet later : List Packet}
    {reports : List Batteries} {wire : List UInt8} {sent : List (UInt32 × Packet)}
    (hopening : announcedChannel opening = some channel)
    (hquiet : ∀ packet ∈ quiet, announcedChannel packet = none)
    (htraffic : Traffic channel later reports) (hsent : Sent wire sent)
    (hpackets : sent.map Prod.snd = quiet ++ opening :: later) :
    (∀ chunks : List (List UInt8), chunks.flatten = wire →
      (∀ chunk ∈ chunks, chunk ≠ [] ∧ chunk.length ≤ bufferSize) →
      ∃ actions state, system.run init actions = some state ∧ reads actions = chunks ∧
        state.phase = .closed (.ok ())) ∧
    ∀ actions state, system.run init actions = some state → (reads actions).flatten = wire →
      state.phase = .closed (.ok ()) →
        state.stored = reports ∧ packets state.written.flatten = [subscription channel] := by
  have hopened : Opened (packets wire) channel later := by
    rw [packets_of_sent hsent, hpackets]
    exact ⟨quiet, opening, rfl, hquiet, hopening⟩
  obtain ⟨hreports, hgoing⟩ := htraffic.reports
  constructor
  · intro chunks hwire hchunks
    have hcalm : Calm (packets (init.received ++ chunks.flatten)) := by
      rw [hwire]
      intro other rest hother
      obtain ⟨rfl, rfl⟩ := hopened.unique hother
      exact hgoing
    obtain ⟨actions, state, hrun, hreads, hreading, hreceived⟩ :=
      exists_read serves_init ⟨rfl, rfl⟩ chunks hchunks hcalm
    have hall : state.received = wire := hreceived.trans hwire
    rw [← hall] at hopened
    obtain ⟨next, hclose, hphase⟩ := exists_close (serves_of_run hrun) hreading hopened
    refine ⟨actions ++ [.endOfStream], next, ?_, ?_, hphase⟩
    · apply system.run_append hrun
      exact (system.run_cons_eq_some).mpr ⟨next, hclose, rfl⟩
    · rw [reads_append, hreads]
      exact List.append_nil chunks
  · intro actions state hrun hwire hclosed
    obtain ⟨-, taken, hsplit, hprogress⟩ := serves_of_run hrun
    obtain ⟨hpending, -⟩ := hprogress.complete hclosed
    have htaken : taken = packets wire := by
      rw [received_eq hrun, hwire, left, hpending] at hsplit
      exact (hsplit.trans (List.append_nil taken)).symm
    rw [← htaken] at hopened
    constructor
    · rcases hprogress.reported with ⟨hnone, -⟩ | ⟨found, rest, hfound, -, hstored, -⟩
      · have hsome := hopened.findSome
        rw [List.findSome?_eq_none_iff.mpr hnone] at hsome
        cases hsome
      · obtain ⟨rfl, rfl⟩ := hopened.unique hfound
        rw [hstored, hreports]
    · rw [hprogress.reported.subscribed, hopened.findSome]
      rfl

/-- The announcement as the buds send it. -/
def announcement : Packet :=
  { Packet.default with
    kind := response
    channel := 26
    service := maestroService
    method := getSoftwareInfo
    call := 0xffffffff
    payload := [0x0a, 0x00] }

theorem announcedChannel_announcement : announcedChannel announcement = some rightBud := by
  decide +kernel

/-- The announcement behind noise and the report behind it, each frame in a read of its own. -/
def dockedReads (channel : Channel) : List (List UInt8) :=
  [[0xaa, flag], (encodeFrame 0 (encodePacket announcement)).tail,
    (encodeFrame 0 (encodePacket (streamed channel (Fixtures.runtimeInfo docked.written)))).tail]

theorem tail_frame {packet : Packet} (hsmall : packet.payload.length ≤ 100) :
    (encodeFrame 0 (encodePacket packet)).tail ≠ [] ∧
      (encodeFrame 0 (encodePacket packet)).tail.length ≤ bufferSize := by
  have hlength := length_stuffed 0 packet
  rw [encodeFrame_eq, List.tail_cons, List.length_append, List.length_singleton, bufferSize]
  refine ⟨List.append_ne_nil_of_right_ne_nil _ (List.cons_ne_nil _ _), ?_⟩
  omega

theorem session_delivers_docked :
    ∃ actions state, system.run init actions = some state ∧
      reads actions = dockedReads rightBud ∧
      state.stored = [docked] ∧ packets state.written.flatten =
        [subscription rightBud] := by
  have hrange : docked.InRange := by
    rintro reading (hleft | hright | hcase)
    · cases hleft
    · cases hright
    · rw [← Option.some.inj hcase]
      decide
  have hsmall : (streamed rightBud
      (Fixtures.runtimeInfo docked.written)).payload.length ≤ 100 := by decide
  have hfollows := Follows.frame (stuffed_fits 0 (Nat.le_trans hsmall (by decide))) Follows.nil
  have hnoise : flag ∉ [(0xaa : UInt8)] := by decide
  have hsent := Sent.frames hnoise (Follows.frame (@stuffed_fits 0 announcement (by decide))
    hfollows)
  have hquiet : ∀ packet ∈ ([] : List Packet), announcedChannel packet = none :=
    fun _ hmem ↦ absurd hmem List.not_mem_nil
  obtain ⟨hexists, hall⟩ := session_delivers announcedChannel_announcement hquiet
    (.stream hrange .nil) hsent rfl
  have hreads : ∀ chunk ∈ dockedReads rightBud,
      chunk ≠ [] ∧ chunk.length ≤ bufferSize := by
    intro chunk hmem
    simp only [dockedReads, List.mem_cons, List.not_mem_nil, or_false] at hmem
    rcases hmem with rfl | rfl | rfl
    · decide
    · exact tail_frame (by decide)
    · exact tail_frame hsmall
  obtain ⟨actions, state, hrun, hsame, hclosed⟩ := hexists _ rfl hreads
  refine ⟨actions, state, hrun, hsame, hall actions state hrun ?_ hclosed⟩
  rw [hsame]
  rfl

end Session

end BtDaemon.Maestro

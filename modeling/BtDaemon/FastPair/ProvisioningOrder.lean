import BtDaemon.FastPair.Provisioning

/-!
# What provisioning promises

A key is written only to a device that is paired, not blocked and without a key, within a minute of
its pairing, and only after a provider of the trusted key proved that it is this device. What is
remembered is what was written, so that the provider and the daemon hold the same key; a
provisioning that fails leaves no key behind.
-/

namespace BtDaemon.FastPair.Provisioning

open Program (Did Ends Ensures Event Outcome Rules Runs continues ensure ensures_bind required)
open Storage (AccountKey typeByte)

variable {crypto : Crypto}

abbrev Past (crypto : Crypto) := List (Event (Request.Answer crypto))

/-! ## What may happen when -/

/-- The answer ends the provisioning. -/
def Request.fails : (request : Request) → request.Answer crypto → Bool
  | .isPaired, .error _ | .isBlocked, .error _ | .uuids, .error _ | .deviceAddresses, .error _
  | .discoverDevices, .error _ | .openDevice _, .error _ | .isConnected _, .error _
  | .connect _, .error _ | .services _, .error _ | .characteristics _, .error _ | .uuid _, .error _
  | .localAddress, .error _ | .notify _, .error _ | .write _ _, .error _ | .flush, .error _
  | .insertKey _ _, .error _ => true
  | .isServicesResolved _, none | .isServicesResolved _, some (.error _) => true
  | .notification _, .ended | .notification _, .timedOut => true
  | .sleep _, expired => expired
  | _, _ => false

/-- A key is remembered. -/
def Request.stores : (request : Request) → request.Answer crypto → Bool
  | .insertKey _ _, .ok () => true
  | _, _ => false

section Promises

variable (catalog : Catalog crypto) (device : Address) (entry : Entry)

/-- The public key is the one that was given, or the one of the model that was reported. -/
def Trusts (past : Past crypto) (text : String) : Prop :=
  match entry with
  | .provided key => text = key
  | .fromCatalog | .automatic => ∃ id address model, Did past .runtime (some (id, address)) ∧
      catalog.models.lookup id = some model ∧ text = model.antiSpoofingPublicKey

/-- The device may get a key. -/
structure Eligible (past : Past crypto) : Prop where
  paired : Did past .isPaired (.ok true)
  unblocked : Did past .isBlocked (.ok false)
  fresh : ∃ deviceKey elapsed, Did past .deviceKey deviceKey ∧
    Did past (.storedKey deviceKey) none ∧
    Did past (.pairedFor deviceKey) (some elapsed) ∧ elapsed < 60000
  permitted : entry = .automatic → ∃ deviceKey, Did past (.controlsEnabled deviceKey) true

/-- The block is an answer of the device. -/
def Names (block : Block) : Prop :=
  block.get ⟨0, zero_lt_blockSize⟩ = 0x01 ∧
    (block.toList.drop 1).take 6 = Endian.toBe 6 device.toNat

/-- A request for key-based pairing. -/
structure Attempt (crypto : Crypto) where
  antiSpoofingKey : String
  providerKey : crypto.PublicKey
  ephemeral : crypto.Secret
  remote : Address
  own : Address
  salt : Vector UInt8 2
  pairing : Characteristic

namespace Attempt

variable (attempt : Attempt crypto)

def block : Block := Crypto.requestBlock attempt.remote attempt.own attempt.salt

def sharedKey : Block := crypto.sharedKey attempt.ephemeral attempt.providerKey

/-- What is written. -/
def value : List UInt8 := crypto.sealRequest attempt.ephemeral attempt.providerKey attempt.block

/-- The request is made of what was asked for. -/
structure Prepared (past : Past crypto) : Prop where
  trusted : Trusts catalog entry past attempt.antiSpoofingKey
  providerKey : crypto.parseAntiSpoofingPublicKey attempt.antiSpoofingKey = .ok attempt.providerKey
  ephemeral : Did past .randomSecret attempt.ephemeral
  remote : Did past (.openDevice attempt.remote) (.ok ())
  own : Did past .localAddress (.ok attempt.own)
  salt : Did past .randomSalt attempt.salt
  pairing : Did past (.uuid (.characteristic attempt.pairing)) (.ok keyBasedPairingUuid)

/-- The provider answered, and named the device that was paired. -/
structure Confirmed (past : Past crypto) : Prop where
  prepared : attempt.Prepared catalog entry past
  written : Did past (.write attempt.pairing attempt.value) (.ok ())
  named : ∃ response : Block, Did past (.notification attempt.pairing) (.value response.toList) ∧
    Names device (crypto.cryptBlock attempt.sharedKey response false)

end Attempt

/-- The identity of the device is saved. -/
def Saved (past : Past crypto) (deviceKey : String) : Prop :=
  Did past .promoteDevice deviceKey ∧ Did past .flush (.ok ())

/-- The key is written to the provider that answered. -/
def Delivered (past : Past crypto) (attempt : Attempt crypto) (key : AccountKey) : Prop :=
  ∃ characteristic, Did past (.uuid (.characteristic characteristic)) (.ok accountKeyUuid) ∧
    Did past (.write characteristic (crypto.cryptBlock attempt.sharedKey key true).toList) (.ok ())

/-- What must have happened before a request. -/
def Needs (past : Past crypto) : Request → Prop
  | .discoverDevices | .openDevice _ | .connect _ | .randomSecret | .notify _ =>
    Eligible entry past
  | .write characteristic value => Eligible entry past ∧
    ((∃ attempt : Attempt crypto, attempt.Prepared catalog entry past ∧
        characteristic = attempt.pairing ∧ value = attempt.value) ∨
      ∃ (attempt : Attempt crypto) (random : AccountKey) (deviceKey : String),
        attempt.Confirmed catalog device entry past ∧ Saved past deviceKey ∧
        Did past (.uuid (.characteristic characteristic)) (.ok accountKeyUuid) ∧
        Did past .randomKey random ∧
        value = (crypto.cryptBlock attempt.sharedKey (generateKey random) true).toList)
  | .promoteDevice | .flush | .randomKey =>
    Eligible entry past ∧ ∃ attempt : Attempt crypto, attempt.Confirmed catalog device entry past
  | .insertKey deviceKey key => Eligible entry past ∧ Saved past deviceKey ∧ typeByte key = 0x04 ∧
    ∃ attempt : Attempt crypto, attempt.Confirmed catalog device entry past ∧
      Delivered past attempt key
  | .announce => ∃ deviceKey key, Did past (.insertKey deviceKey key) (.ok ())
  | _ => True

def rules : Rules (Request.Answer crypto) where
  fails := Request.fails
  lasts := Request.stores
  needs := Needs catalog device entry

/-- A provisioning that succeeds remembered a key and said so, unless it was not asked for. -/
def Settled (past : Past crypto) : Except String Unit → Prop
  | .ok () => entry ≠ .automatic →
    ∃ deviceKey key, Did past (.insertKey deviceKey key) (.ok ()) ∧ Did past .announce ()
  | .error _ => (rules catalog device entry).Free past

end Promises

variable {catalog : Catalog crypto} {device : Address} {entry : Entry} {past later : Past crypto}

theorem Trusts.mono {text : String} (htrusts : Trusts catalog entry past text)
    (hmore : past <+: later) : Trusts catalog entry later text := by
  cases entry with
  | provided key => exact htrusts
  | fromCatalog | automatic =>
    obtain ⟨id, address, model, hdid, hmodel⟩ := htrusts
    exact ⟨id, address, model, hdid.mono hmore, hmodel⟩

theorem Eligible.mono (heligible : Eligible entry past) (hmore : past <+: later) :
    Eligible entry later := by
  obtain ⟨deviceKey, elapsed, hkey, hstored, hpaired, hrecent⟩ := heligible.fresh
  refine ⟨heligible.paired.mono hmore, heligible.unblocked.mono hmore,
    ⟨deviceKey, elapsed, hkey.mono hmore, hstored.mono hmore, hpaired.mono hmore, hrecent⟩, ?_⟩
  intro hautomatic
  obtain ⟨permitted, hpermitted⟩ := heligible.permitted hautomatic
  exact ⟨permitted, hpermitted.mono hmore⟩

theorem Attempt.Prepared.mono {attempt : Attempt crypto}
    (hprepared : attempt.Prepared catalog entry past) (hmore : past <+: later) :
    attempt.Prepared catalog entry later where
  trusted := hprepared.trusted.mono hmore
  providerKey := hprepared.providerKey
  ephemeral := hprepared.ephemeral.mono hmore
  remote := hprepared.remote.mono hmore
  own := hprepared.own.mono hmore
  salt := hprepared.salt.mono hmore
  pairing := hprepared.pairing.mono hmore

theorem Attempt.Confirmed.mono {attempt : Attempt crypto}
    (hconfirmed : attempt.Confirmed catalog device entry past) (hmore : past <+: later) :
    attempt.Confirmed catalog device entry later := by
  obtain ⟨response, hresponse, hnamed⟩ := hconfirmed.named
  exact ⟨hconfirmed.prepared.mono hmore, hconfirmed.written.mono hmore, response,
    hresponse.mono hmore, hnamed⟩

theorem Saved.mono {deviceKey : String} (hsaved : Saved past deviceKey) (hmore : past <+: later) :
    Saved later deviceKey :=
  ⟨hsaved.1.mono hmore, hsaved.2.mono hmore⟩

/-! ## The steps -/

section Steps

variable (catalog device entry) in
/-- The provisioning goes on after `past`, and can still fail. -/
def Goes (past later : Past crypto) : Prop :=
  past <+: later ∧ (rules catalog device entry).Working later

theorem ensures_ask {Found : Type} {post : Past crypto → Except String Found → Prop}
    (request : Request) {next : request.Answer crypto → Provision crypto Found}
    (hworking : (rules catalog device entry).Working past)
    (hneeds : Needs catalog device entry past request)
    (hanswer : ∀ answer later, (rules catalog device entry).After past request answer later →
      Ensures (rules catalog device entry).Allowed post (next answer) later) :
    Ensures (rules catalog device entry).Allowed post (ask request >>= next) past :=
  Rules.ensures_ask request hworking hneeds hanswer

theorem ensures_waitForMetadata {polls : ℕ}
    {post : Past crypto → Except String (BitVec 24 × Option Address) → Prop}
    (hworking : (rules catalog device entry).Working past)
    (hforgiving : (rules catalog device entry).Forgiving post)
    (hdone : ∀ metadata later, Goes catalog device entry past later →
      Did later .runtime (some metadata) → post later (.ok metadata)) :
    Ensures (rules catalog device entry).Allowed post (waitForMetadata polls) past := by
  induction polls generalizing past with
  | zero => exact hforgiving _ _ hworking.free
  | succ polls ih =>
    apply ensures_ask .runtime hworking trivial
    rintro (_ | metadata) later hafter
    · apply ensures_ask (.sleep 100) (hafter.working rfl rfl) trivial
      rintro (_ | _) slept hslept
      · apply ih (hslept.working rfl rfl)
        intro metadata final hfinal
        exact hdone metadata final ⟨(hafter.more.trans hslept.more).trans hfinal.1, hfinal.2⟩
      · exact hforgiving _ _ (hslept.free rfl)
    · exact hdone metadata later ⟨hafter.more, hafter.working rfl rfl⟩ hafter.did

variable {post : Past crypto → Except String Unit → Prop}

theorem ensures_awaitAdded {address : Address} {ended : Bool} {events : List (Option Address)}
    (hworking : (rules catalog device entry).Working past)
    (hforgiving : (rules catalog device entry).Forgiving post) (hdone : post past (.ok ())) :
    Ensures (rules catalog device entry).Allowed post (awaitAdded address ended events) past := by
  induction events with
  | nil => cases ended <;> exact hforgiving _ _ hworking.free
  | cons event events ih =>
    unfold awaitAdded
    split
    · exact hdone
    · exact ih

theorem ensures_discoverAddress {address : Address}
    (hworking : (rules catalog device entry).Working past) (heligible : Eligible entry past)
    (hforgiving : (rules catalog device entry).Forgiving post)
    (hdone : ∀ later, Goes catalog device entry past later → post later (.ok ())) :
    Ensures (rules catalog device entry).Allowed post (discoverAddress address) past := by
  apply ensures_ask .deviceAddresses hworking trivial
  rintro (error | known) listed hlisted
  · exact hforgiving _ _ (hlisted.free rfl)
  change Ensures _ post (if known.contains address = true then _ else _) listed
  split
  · exact hdone listed ⟨hlisted.more, hlisted.working rfl rfl⟩
  apply ensures_ask .discoverDevices (hlisted.working rfl rfl) (heligible.mono hlisted.more)
  rintro (error | ⟨⟩) started hstarted
  · exact hforgiving _ _ (hstarted.free rfl)
  apply ensures_ask .discovered (hstarted.working rfl rfl) trivial
  intro discovered later hlater
  have hworking := hlater.working rfl rfl
  exact ensures_awaitAdded hworking hforgiving
    (hdone later ⟨(hlisted.more.trans hstarted.more).trans hlater.more, hworking⟩)

theorem ensures_waitForServices {address : Address} {polls : ℕ}
    (hworking : (rules catalog device entry).Working past)
    (hforgiving : (rules catalog device entry).Forgiving post)
    (hdone : ∀ later, Goes catalog device entry past later → post later (.ok ())) :
    Ensures (rules catalog device entry).Allowed post (waitForServices address polls) past := by
  induction polls generalizing past with
  | zero => exact hforgiving _ _ hworking.free
  | succ polls ih =>
    apply ensures_ask (.isServicesResolved address) hworking trivial
    rintro (_ | (error | (_ | _))) later hafter
    · exact hforgiving _ _ (hafter.free rfl)
    · exact hforgiving _ _ (hafter.free rfl)
    · apply ensures_ask (.sleep 100) (hafter.working rfl rfl) trivial
      rintro (_ | _) slept hslept
      · apply ih (hslept.working rfl rfl)
        intro final hfinal
        exact hdone final ⟨(hafter.more.trans hslept.more).trans hfinal.1, hfinal.2⟩
      · exact hforgiving _ _ (hslept.free rfl)
    · exact hdone later ⟨hafter.more, hafter.working rfl rfl⟩

theorem ensures_resolveBleDevice {address : Address}
    (hworking : (rules catalog device entry).Working past) (heligible : Eligible entry past)
    (hforgiving : (rules catalog device entry).Forgiving post)
    (hdone : ∀ later, Goes catalog device entry past later →
      Did later (.openDevice address) (.ok ()) → post later (.ok ())) :
    Ensures (rules catalog device entry).Allowed post (resolveBleDevice address) past := by
  apply (ensures_bind _ _).mpr
  apply ensures_discoverAddress hworking heligible hforgiving.continues
  intro found hfound
  apply ensures_ask (.openDevice address) hfound.2 (heligible.mono hfound.1)
  rintro (error | ⟨⟩) opened hopened
  · exact hforgiving _ _ (hopened.free rfl)
  apply ensures_ask (.isConnected address) (hopened.working rfl rfl) trivial
  rintro (error | connected) read hread
  · exact hforgiving _ _ (hread.free rfl)
  have hmore := (hfound.1.trans hopened.more).trans hread.more
  have hresolve : ∀ later, Goes catalog device entry read later →
      Ensures (rules catalog device entry).Allowed post
        (waitForServices address servicePolls) later := by
    intro later hlater
    apply ensures_waitForServices hlater.2 hforgiving
    intro final hfinal
    exact hdone final ⟨(hmore.trans hlater.1).trans hfinal.1, hfinal.2⟩
      (hopened.did.mono ((hread.more.trans hlater.1).trans hfinal.1))
  change Ensures _ post (Program.when (!connected) _ >>= _) read
  apply (ensures_bind _ _).mpr
  rw [Program.ensures_when]
  split
  · apply ensures_ask (.connect address) (hread.working rfl rfl) (heligible.mono hmore)
    rintro (error | ⟨⟩) linked hlinked
    · exact hforgiving _ _ (hlinked.free rfl)
    · exact hresolve linked ⟨hlinked.more, hlinked.working rfl rfl⟩
  · exact hresolve read ⟨List.prefix_refl _, hread.working rfl rfl⟩

/-! ## The characteristics -/

theorem ensures_lookup {Item : Type} {object : Item → GattObject} {uuid : Uuid} {items : List Item}
    {post : Past crypto → Except String (Option Item) → Prop}
    (hworking : (rules catalog device entry).Working past)
    (hforgiving : (rules catalog device entry).Forgiving post)
    (hdone : ∀ found later, Goes catalog device entry past later →
      (∀ item, found = some item → Did later (.uuid (object item)) (.ok uuid)) →
        post later (.ok found)) :
    Ensures (rules catalog device entry).Allowed post (lookup object uuid items) past := by
  induction items generalizing past with
  | nil => exact hdone none past ⟨List.prefix_refl _, hworking⟩ nofun
  | cons item items ih =>
    apply ensures_ask (.uuid (object item)) hworking trivial
    rintro (error | read) later hafter
    · exact hforgiving _ _ (hafter.free rfl)
    change Ensures _ post (if read = uuid then _ else _) later
    split
    · next hread =>
      apply hdone (some item) later ⟨hafter.more, hafter.working rfl rfl⟩
      rintro _ ⟨⟩
      exact hread ▸ hafter.did
    · apply ih (hafter.working rfl rfl)
      intro found final hfinal
      exact hdone found final ⟨hafter.more.trans hfinal.1, hfinal.2⟩

theorem ensures_findService {address : Address} {uuid : Uuid}
    {post : Past crypto → Except String (Option Service) → Prop}
    (hworking : (rules catalog device entry).Working past)
    (hforgiving : (rules catalog device entry).Forgiving post)
    (hdone : ∀ found later, Goes catalog device entry past later → post later (.ok found)) :
    Ensures (rules catalog device entry).Allowed post (findService address uuid) past := by
  apply ensures_ask (.services address) hworking trivial
  rintro (error | services) later hafter
  · exact hforgiving _ _ (hafter.free rfl)
  apply ensures_lookup (hafter.working rfl rfl) hforgiving
  intro found final hfinal _
  exact hdone found final ⟨hafter.more.trans hfinal.1, hfinal.2⟩

theorem ensures_findCharacteristic {service : Service} {uuid : Uuid}
    {post : Past crypto → Except String (Option Characteristic) → Prop}
    (hworking : (rules catalog device entry).Working past)
    (hforgiving : (rules catalog device entry).Forgiving post)
    (hdone : ∀ found later, Goes catalog device entry past later →
      (∀ characteristic, found = some characteristic →
        Did later (.uuid (.characteristic characteristic)) (.ok uuid)) → post later (.ok found)) :
    Ensures (rules catalog device entry).Allowed post (findCharacteristic service uuid) past := by
  apply ensures_ask (.characteristics service) hworking trivial
  rintro (error | characteristics) later hafter
  · exact hforgiving _ _ (hafter.free rfl)
  apply ensures_lookup (hafter.working rfl rfl) hforgiving
  intro found final hfinal
  exact hdone found final ⟨hafter.more.trans hfinal.1, hfinal.2⟩

theorem ensures_provisioningCharacteristics {address : Address}
    {post : Past crypto → Except String (Characteristic × Characteristic) → Prop}
    (hworking : (rules catalog device entry).Working past)
    (hforgiving : (rules catalog device entry).Forgiving post)
    (hdone : ∀ pairing accountKey later, Goes catalog device entry past later →
      Did later (.uuid (.characteristic pairing)) (.ok keyBasedPairingUuid) →
        Did later (.uuid (.characteristic accountKey)) (.ok accountKeyUuid) →
          post later (.ok (pairing, accountKey))) :
    Ensures (rules catalog device entry).Allowed post (provisioningCharacteristics address)
      past := by
  apply (ensures_bind _ _).mpr
  apply ensures_findService hworking hforgiving.continues
  rintro (_ | service) first hfirst
  · exact hforgiving _ _ hfirst.2.free
  change Ensures _ post (findCharacteristic service keyBasedPairingUuid >>= _) first
  apply (ensures_bind _ _).mpr
  apply ensures_findCharacteristic hfirst.2 hforgiving.continues
  rintro (_ | pairing) second hsecond hpairing
  · exact hforgiving _ _ hsecond.2.free
  change Ensures _ post (findCharacteristic service accountKeyUuid >>= _) second
  apply (ensures_bind _ _).mpr
  apply ensures_findCharacteristic hsecond.2 hforgiving.continues
  rintro (_ | accountKey) third hthird haccountKey
  · exact hforgiving _ _ hthird.2.free
  · exact hdone pairing accountKey third ⟨(hfirst.1.trans hsecond.1).trans hthird.1, hthird.2⟩
      ((hpairing pairing rfl).mono hthird.1) (haccountKey accountKey rfl)

/-! ## The key-based pairing -/

/-- What is known of a request before it is written. -/
theorem ensures_provisioningRequest {antiSpoofingKey : String} {remote own : Address}
    {pairing : Characteristic}
    {post : Past crypto → Except String (Block × List UInt8) → Prop}
    (hworking : (rules catalog device entry).Working past) (heligible : Eligible entry past)
    (htrusts : Trusts catalog entry past antiSpoofingKey)
    (hremote : Did past (.openDevice remote) (.ok ()))
    (hown : Did past .localAddress (.ok own))
    (hpairing : Did past (.uuid (.characteristic pairing)) (.ok keyBasedPairingUuid))
    (hforgiving : (rules catalog device entry).Forgiving post)
    (hdone : ∀ (attempt : Attempt crypto) later, Goes catalog device entry past later →
      attempt.Prepared catalog entry later → attempt.pairing = pairing →
        post later (.ok (attempt.sharedKey, attempt.value))) :
    Ensures (rules catalog device entry).Allowed post
      (provisioningRequest antiSpoofingKey remote own) past := by
  unfold provisioningRequest
  cases hkey : crypto.parseAntiSpoofingPublicKey antiSpoofingKey with
  | error error => exact hforgiving _ _ hworking.free
  | ok providerKey =>
    apply ensures_ask .randomSecret hworking heligible
    intro ephemeral drawn hdrawn
    apply ensures_ask .randomSalt (hdrawn.working rfl rfl) trivial
    intro salt later hlater
    have hmore := hdrawn.more.trans hlater.more
    let attempt : Attempt crypto :=
      ⟨antiSpoofingKey, providerKey, ephemeral, remote, own, salt, pairing⟩
    refine hdone attempt later ⟨hmore, hlater.working rfl rfl⟩ ?_ rfl
    exact {
      trusted := htrusts.mono hmore
      providerKey := hkey
      ephemeral := hdrawn.did.mono hlater.more
      remote := hremote.mono hmore
      own := hown.mono hmore
      salt := hlater.did
      pairing := hpairing.mono hmore }

theorem ensures_completeKeyPairing {attempt : Attempt crypto}
    {post : Past crypto → Except String Unit → Prop}
    (hworking : (rules catalog device entry).Working past) (heligible : Eligible entry past)
    (hprepared : attempt.Prepared catalog entry past)
    (hforgiving : (rules catalog device entry).Forgiving post)
    (hdone : ∀ later, Goes catalog device entry past later →
      attempt.Confirmed catalog device entry later → post later (.ok ())) :
    Ensures (rules catalog device entry).Allowed post
      (completeKeyPairing attempt.pairing attempt.value attempt.sharedKey device) past := by
  apply ensures_ask (.notify attempt.pairing) hworking heligible
  rintro (error | ⟨⟩) subscribed hsubscribed
  · exact hforgiving _ _ (hsubscribed.free rfl)
  have hneeds : Needs catalog device entry subscribed (.write attempt.pairing attempt.value) :=
    ⟨heligible.mono hsubscribed.more, .inl ⟨attempt, hprepared.mono hsubscribed.more, rfl, rfl⟩⟩
  apply ensures_ask (.write attempt.pairing attempt.value) (hsubscribed.working rfl rfl) hneeds
  rintro (error | ⟨⟩) written hwritten
  · exact hforgiving _ _ (hwritten.free rfl)
  apply ensures_ask (.notification attempt.pairing) (hwritten.working rfl rfl) trivial
  rintro (value | _ | _) later hlater
  rotate_left
  · exact hforgiving _ _ (hlater.free rfl)
  · exact hforgiving _ _ (hlater.free rfl)
  have hfree := hlater.free rfl
  have hgoes : Goes catalog device entry past later :=
    ⟨(hsubscribed.more.trans hwritten.more).trans hlater.more, hlater.working rfl rfl⟩
  change Ensures _ post
    (Program.ofExcept (decodeFixed 16 value "key-based pairing response") >>= _) later
  cases hresponse : decodeFixed 16 value "key-based pairing response" with
  | error error => exact hforgiving _ _ hfree
  | ok response =>
    rw [decodeFixed_eq_ok] at hresponse
    obtain rfl := hresponse
    change Ensures _ post (ensure _ _ >>= fun _ ↦ ensure _ _) later
    apply (ensures_bind _ _).mpr
    apply Rules.ensures_ensure hfree hforgiving.continues
    intro hkind
    apply Rules.ensures_ensure hfree hforgiving
    intro hname
    apply hdone later hgoes
    exact ⟨hprepared.mono hgoes.1, hwritten.did.mono hlater.more, response, hlater.did,
      of_decide_eq_true hkind, of_decide_eq_true hname⟩

@[simp]
theorem typeByte_generateKey (random : AccountKey) : typeByte (generateKey random) = 0x04 := by
  simp [typeByte, generateKey]

/-- The end of the provisioning, once the provider answered. -/
theorem ensures_writeAccountKey {attempt : Attempt crypto} {characteristic : Characteristic}
    {deviceKey : String} {post : Past crypto → Except String AccountKey → Prop}
    (hworking : (rules catalog device entry).Working past) (heligible : Eligible entry past)
    (hconfirmed : attempt.Confirmed catalog device entry past) (hsaved : Saved past deviceKey)
    (hcharacteristic : Did past (.uuid (.characteristic characteristic)) (.ok accountKeyUuid))
    (hforgiving : (rules catalog device entry).Forgiving post)
    (hdone : ∀ key later, Goes catalog device entry past later → typeByte key = 0x04 →
      Delivered later attempt key → post later (.ok key)) :
    Ensures (rules catalog device entry).Allowed post
      (writeAccountKey characteristic attempt.sharedKey) past := by
  apply ensures_ask .randomKey hworking ⟨heligible, attempt, hconfirmed⟩
  intro random drawn hdrawn
  have hneeds : Needs catalog device entry drawn (.write characteristic
      (crypto.cryptBlock attempt.sharedKey (generateKey random) true).toList) :=
    ⟨heligible.mono hdrawn.more, .inr ⟨attempt, random, deviceKey, hconfirmed.mono hdrawn.more,
      hsaved.mono hdrawn.more, hcharacteristic.mono hdrawn.more, hdrawn.did, rfl⟩⟩
  apply ensures_ask _ (hdrawn.working rfl rfl) hneeds
  rintro (error | ⟨⟩) later hlater
  · exact hforgiving _ _ (hlater.free rfl)
  · have hmore := hdrawn.more.trans hlater.more
    exact hdone (generateKey random) later ⟨hmore, hlater.working rfl rfl⟩
      (typeByte_generateKey random) ⟨characteristic, hcharacteristic.mono hmore, hlater.did⟩

/-! ## The workflow -/

theorem ensures_usable {post : Past crypto → Except String Bool → Prop}
    (hworking : (rules catalog device entry).Working past)
    (hforgiving : (rules catalog device entry).Forgiving post)
    (hdone : ∀ result later, Goes catalog device entry past later →
      (result = true → Did later .isPaired (.ok true) ∧ Did later .isBlocked (.ok false)) →
        post later (.ok result)) :
    Ensures (rules catalog device entry).Allowed post usable past := by
  apply ensures_ask .isPaired hworking trivial
  rintro (error | (_ | _)) read hread
  · exact hforgiving _ _ (hread.free rfl)
  · exact hdone false read ⟨hread.more, hread.working rfl rfl⟩ nofun
  apply ensures_ask .isBlocked (hread.working rfl rfl) trivial
  rintro (error | blocked) later hlater
  · exact hforgiving _ _ (hlater.free rfl)
  · apply hdone (!blocked) later ⟨hread.more.trans hlater.more, hlater.working rfl rfl⟩
    intro hblocked
    obtain rfl : blocked = false := by simpa using hblocked
    exact ⟨hread.did.mono hlater.more, hlater.did⟩

theorem forgiving_settled : (rules catalog device entry).Forgiving (Settled catalog device entry) :=
  fun _ _ hfree ↦ hfree

/-- The provisioning once the provider answered. -/
theorem ensures_remember {attempt : Attempt crypto} {characteristic : Characteristic}
    (hworking : (rules catalog device entry).Working past) (heligible : Eligible entry past)
    (hconfirmed : attempt.Confirmed catalog device entry past)
    (hcharacteristic : Did past (.uuid (.characteristic characteristic)) (.ok accountKeyUuid)) :
    Ensures (rules catalog device entry).Allowed (Settled catalog device entry) (do
      let deviceKey ← ask .promoteDevice
      Program.ofExcept (← ask .flush)
      let accountKey ← writeAccountKey characteristic attempt.sharedKey
      Program.ofExcept (← ask (.insertKey deviceKey accountKey))
      ask .announce) past := by
  apply ensures_ask .promoteDevice hworking ⟨heligible, attempt, hconfirmed⟩
  intro deviceKey promoted hpromoted
  have hneeds : Needs catalog device entry promoted .flush :=
    ⟨heligible.mono hpromoted.more, attempt, hconfirmed.mono hpromoted.more⟩
  apply ensures_ask .flush (hpromoted.working rfl rfl) hneeds
  rintro (error | ⟨⟩) flushed hflushed
  · exact hflushed.free rfl
  have hmore := hpromoted.more.trans hflushed.more
  have hsaved : Saved flushed deviceKey := ⟨hpromoted.did.mono hflushed.more, hflushed.did⟩
  change Ensures _ _ (writeAccountKey characteristic attempt.sharedKey >>= _) flushed
  apply (ensures_bind _ _).mpr
  apply ensures_writeAccountKey (hflushed.working rfl rfl) (heligible.mono hmore)
    (hconfirmed.mono hmore) hsaved (hcharacteristic.mono hmore) forgiving_settled.continues
  intro key written hwritten htype hdelivered
  have hneeds : Needs catalog device entry written (.insertKey deviceKey key) :=
    ⟨heligible.mono (hmore.trans hwritten.1), hsaved.mono hwritten.1, htype, attempt,
      hconfirmed.mono (hmore.trans hwritten.1), hdelivered⟩
  apply ensures_ask (.insertKey deviceKey key) hwritten.2 hneeds
  rintro (error | ⟨⟩) stored hstored
  · exact hstored.free rfl
  -- Nothing can fail any more.
  refine ⟨⟨hstored.clean rfl, deviceKey, key, hstored.did⟩, fun answer _ ↦ ?_⟩
  exact ⟨deviceKey, key, hstored.did.mono (List.prefix_append _ _),
    List.mem_append_right _ (List.mem_singleton_self _)⟩

theorem ensures_provisionAccountKey {antiSpoofingKey : String}
    (hworking : (rules catalog device entry).Working past)
    (htrusts : Trusts catalog entry past antiSpoofingKey)
    (hpermitted : entry = .automatic → ∃ deviceKey, Did past (.controlsEnabled deviceKey) true) :
    Ensures (rules catalog device entry).Allowed (Settled catalog device entry)
      (provisionAccountKey device antiSpoofingKey) past := by
  have hforgiving := @forgiving_settled crypto catalog device entry
  apply (ensures_bind _ _).mpr
  apply ensures_usable hworking hforgiving.continues
  intro paired checked hchecked hpaired
  apply (ensures_bind _ _).mpr
  apply Rules.ensures_ensure hchecked.2.free hforgiving.continues
  intro husable
  obtain ⟨hpaired, hunblocked⟩ := hpaired husable
  apply ensures_ask .deviceKey hchecked.2 trivial
  intro deviceKey named hnamed
  apply ensures_ask (.storedKey deviceKey) (hnamed.working rfl rfl) trivial
  intro stored known hknown
  apply (ensures_bind _ _).mpr
  apply Rules.ensures_ensure (hknown.free rfl) hforgiving.continues
  intro hstored
  obtain rfl := Option.isNone_iff_eq_none.mp hstored
  apply ensures_ask (.pairedFor deviceKey) (hknown.working rfl rfl) trivial
  intro pairedFor timed htimed
  apply (ensures_bind _ _).mpr
  apply Rules.ensures_ensure (htimed.free rfl) hforgiving.continues
  intro hrecent
  obtain ⟨elapsed, rfl, helapsed⟩ := (Option.any_eq_true _ _).mp hrecent
  have hmore := hnamed.more.trans (hknown.more.trans htimed.more)
  have heligible : Eligible entry timed := {
    paired := hpaired.mono hmore
    unblocked := hunblocked.mono hmore
    fresh := ⟨deviceKey, elapsed, hnamed.did.mono (hknown.more.trans htimed.more),
      hknown.did.mono htimed.more, htimed.did, of_decide_eq_true helapsed⟩
    permitted := fun hautomatic ↦ (hpermitted hautomatic).imp fun _ hdid ↦
      hdid.mono (hchecked.1.trans hmore) }
  have htrusts := htrusts.mono (hchecked.1.trans hmore)
  apply (ensures_bind _ _).mpr
  apply ensures_waitForMetadata (htimed.working rfl rfl) hforgiving.continues
  rintro ⟨modelId, reported⟩ reports hreports -
  have heligible := heligible.mono hreports.1
  change Ensures _ _ (resolveBleDevice (reported.getD device) >>= _) reports
  apply (ensures_bind _ _).mpr
  apply ensures_resolveBleDevice hreports.2 heligible hforgiving.continues
  intro resolved hresolved hremote
  apply (ensures_bind _ _).mpr
  apply ensures_provisioningCharacteristics hresolved.2 hforgiving.continues
  intro pairing characteristic found hfound hpairing hcharacteristic
  apply ensures_ask .localAddress hfound.2 trivial
  rintro (error | own) read hread
  · exact hread.free rfl
  have heligible := heligible.mono (hresolved.1.trans (hfound.1.trans hread.more))
  have htrusts := htrusts.mono (hreports.1.trans (hresolved.1.trans (hfound.1.trans hread.more)))
  change Ensures _ _ (provisioningRequest antiSpoofingKey (reported.getD device) own >>= _) read
  apply (ensures_bind _ _).mpr
  apply ensures_provisioningRequest (hread.working rfl rfl) heligible htrusts
    (hremote.mono (hfound.1.trans hread.more)) hread.did (hpairing.mono hread.more)
      hforgiving.continues
  rintro attempt prepared hprepared hattempt rfl
  apply (ensures_bind _ _).mpr
  apply ensures_completeKeyPairing hprepared.2 (heligible.mono hprepared.1) hattempt
    hforgiving.continues
  intro confirmed hconfirmed hconfirms
  exact ensures_remember hconfirmed.2 (heligible.mono (hprepared.1.trans hconfirmed.1)) hconfirms
    (hcharacteristic.mono (hread.more.trans (hprepared.1.trans hconfirmed.1)))

theorem ensures_provision :
    Ensures (rules catalog device entry).Allowed (Settled catalog device entry)
      (provision catalog device entry) [] := by
  cases entry with
  | provided key => exact ensures_provisionAccountKey Ends.working_nil rfl nofun
  | fromCatalog =>
    apply (ensures_bind _ _).mpr
    apply ensures_waitForMetadata Ends.working_nil forgiving_settled.continues
    rintro ⟨modelId, address⟩ reports hreports hreported
    change Ensures _ _ (required (trustedModel catalog modelId) _ >>= _) reports
    cases hmodel : trustedModel catalog modelId with
    | none => exact hreports.2.free
    | some model =>
      exact ensures_provisionAccountKey hreports.2
        ⟨modelId, address, model, hreported, hmodel, rfl⟩ nofun
  | automatic =>
    change Ensures _ _ (if _ then _ else _) _
    split
    · exact nofun
    apply ensures_ask .deviceKey Ends.working_nil trivial
    intro deviceKey named hnamed
    apply ensures_ask (.controlsEnabled deviceKey) (hnamed.working rfl rfl) trivial
    rintro (_ | _) permitted hpermitted
    · exact nofun
    apply ensures_ask (.storedKey deviceKey) (hpermitted.working rfl rfl) trivial
    rintro (_ | key) known hknown
    swap
    · exact nofun
    apply ensures_ask .uuids (hknown.working rfl rfl) trivial
    rintro (error | uuids) listed hlisted
    · exact hlisted.free rfl
    change Ensures _ _ (if _ then _ else _) listed
    split
    · exact nofun
    apply (ensures_bind _ _).mpr
    apply ensures_waitForMetadata (hlisted.working rfl rfl) forgiving_settled.continues
    rintro ⟨modelId, address⟩ reports hreports hreported
    change Ensures _ _ _ reports
    dsimp only
    cases hmodel : trustedModel catalog modelId with
    | none => exact nofun
    | some model =>
      exact ensures_provisionAccountKey hreports.2
        ⟨modelId, address, model, hreported, hmodel, rfl⟩ fun _ ↦
          ⟨deviceKey, hpermitted.did.mono (hknown.more.trans (hlisted.more.trans hreports.1))⟩

end Steps

/-! ## The provider -/

/-- What the owner of the private key made of what was written to it: it opened the request, its
answer named the device, and it read the account key. -/
def Agrees (device : Address) (past : Past crypto) (provider : crypto.Secret) (key : AccountKey) :
    Prop :=
  ∃ (pairing characteristic : Characteristic) (request : List UInt8)
      (shared response value : Block) (remote own : Address) (salt : Vector UInt8 2),
    Did past (.write pairing request) (.ok ()) ∧
    crypto.openRequest provider request = .ok (shared, Crypto.requestBlock remote own salt) ∧
    Did past (.notification pairing) (.value response.toList) ∧
    Names device (crypto.cryptBlock shared response false) ∧
    Did past (.write characteristic value.toList) (.ok ()) ∧
    crypto.cryptBlock shared value false = key

theorem agrees_of_delivered {attempt : Attempt crypto} {key : AccountKey}
    {provider : crypto.Secret} (hconfirmed : attempt.Confirmed catalog device entry past)
    (hdelivered : Delivered past attempt key)
    (hprovider : attempt.providerKey = crypto.publicKey provider) :
    Agrees device past provider key := by
  obtain ⟨response, hresponse, hnames⟩ := hconfirmed.named
  obtain ⟨characteristic, -, hwritten⟩ := hdelivered
  refine ⟨attempt.pairing, characteristic, attempt.value, attempt.sharedKey, response, _,
    attempt.remote, attempt.own, attempt.salt, hconfirmed.written, ?_, hresponse, hnames, hwritten,
    crypto.cryptBlock_cryptBlock attempt.sharedKey key⟩
  rw [Attempt.value, Attempt.sharedKey, hprovider]
  exact crypto.openRequest_sealRequest provider attempt.ephemeral attempt.block

/-- A provisioning only does what it may after what was answered, wherever it ends, and what it
remembers is the key that the device got: whoever owns the private key of the trusted key opened
the request, answered with the address of the device and read exactly this key. -/
theorem provisioning_agreed {events : Past crypto} {outcome : Outcome Request String Unit}
    (hruns : Runs (provision catalog device entry) events outcome) :
    (∀ before event after, events = before ++ event :: after →
      (rules catalog device entry).Allowed before event.request) ∧
    outcome.Good (rules catalog device entry).Allowed (Settled catalog device entry) events ∧
    ∀ deviceKey key, Did events (.insertKey deviceKey key) (.ok ()) →
      ∃ text, Trusts catalog entry events text ∧
        ∀ provider, crypto.parseAntiSpoofingPublicKey text = .ok (crypto.publicKey provider) →
          Agrees device events provider key := by
  obtain ⟨hallowed, hgood⟩ := ensures_provision.of_runs hruns
  refine ⟨hallowed, hgood, ?_⟩
  intro deviceKey key hdid
  obtain ⟨before, after, hevents⟩ := List.append_of_mem hdid
  obtain ⟨-, -, -, attempt, hconfirmed, hdelivered⟩ := (hallowed before _ after hevents).needs
  have hmore : before <+: events := ⟨_, hevents.symm⟩
  refine ⟨attempt.antiSpoofingKey, hconfirmed.prepared.trusted.mono hmore, ?_⟩
  intro provider hprovider
  have hkey := Except.ok.inj (hconfirmed.prepared.providerKey.symm.trans hprovider)
  obtain ⟨characteristic, hfound, hwritten⟩ := hdelivered
  exact agrees_of_delivered (hconfirmed.mono hmore)
    ⟨characteristic, hfound.mono hmore, hwritten.mono hmore⟩ hkey

def peripheral : Address := 0x0a1b2c3d4e5f

def pairingCharacteristic : Characteristic := ⟨⟨peripheral, 0x10⟩, 0x11⟩

def keyCharacteristic : Characteristic := ⟨⟨peripheral, 0x10⟩, 0x14⟩

/-- A provisioning with the key of the provider, whose reports come late. -/
def provisioned : Past Crypto.twoParties :=
  [⟨.isPaired, .ok true⟩, ⟨.isBlocked, .ok false⟩, ⟨.deviceKey, "device-1"⟩,
    ⟨.storedKey "device-1", none⟩, ⟨.pairedFor "device-1", some 4000⟩, ⟨.runtime, none⟩,
    ⟨.sleep 100, false⟩, ⟨.runtime, some (0xaabbcc, some peripheral)⟩,
    ⟨.deviceAddresses, .ok [peripheral]⟩, ⟨.openDevice peripheral, .ok ()⟩,
    ⟨.isConnected peripheral, .ok false⟩, ⟨.connect peripheral, .ok ()⟩,
    ⟨.isServicesResolved peripheral, some (.ok true)⟩,
    ⟨.services peripheral, .ok [pairingCharacteristic.service]⟩,
    ⟨.uuid (.service pairingCharacteristic.service), .ok fastPairServiceUuid⟩,
    ⟨.characteristics pairingCharacteristic.service,
      .ok [pairingCharacteristic, keyCharacteristic]⟩,
    ⟨.uuid (.characteristic pairingCharacteristic), .ok keyBasedPairingUuid⟩,
    ⟨.characteristics pairingCharacteristic.service,
      .ok [pairingCharacteristic, keyCharacteristic]⟩,
    ⟨.uuid (.characteristic pairingCharacteristic), .ok keyBasedPairingUuid⟩,
    ⟨.uuid (.characteristic keyCharacteristic), .ok accountKeyUuid⟩,
    ⟨.localAddress, .ok 0x001a7dda7113⟩, ⟨.randomSecret, Crypto.Party.seeker⟩,
    ⟨.randomSalt, #v[0xc3, 0x5a]⟩, ⟨.notify pairingCharacteristic, .ok ()⟩,
    ⟨.write pairingCharacteristic
      (Crypto.requestSealed.toList ++ (Crypto.Party.point .seeker).toList), .ok ()⟩,
    ⟨.notification pairingCharacteristic, .value Crypto.answerSealed.toList⟩,
    ⟨.promoteDevice, "device-1"⟩, ⟨.flush, .ok ()⟩,
    ⟨.randomKey, Crypto.keyPlain.set 0 0x9e zero_lt_blockSize⟩,
    ⟨.write keyCharacteristic Crypto.keySealed.toList, .ok ()⟩,
    ⟨.insertKey "device-1" Crypto.keyPlain, .ok ()⟩, ⟨.announce, ()⟩]

theorem provisioning_agreed_provisioned :
    Agrees 0x0c1d2e3f5061 provisioned (Crypto.Party.provider : Crypto.twoParties.Secret)
      Crypto.keyPlain := by
  have hreplay : (provision (∅ : Catalog Crypto.twoParties) 0x0c1d2e3f5061
      (.provided Crypto.generatorText)).replay provisioned = some (.finished (.ok ())) := by
    simp only [provision, provisionAccountKey, provisioningRequest, Crypto.parse_generatorText]
    decide +kernel
  obtain ⟨-, -, hagrees⟩ := provisioning_agreed (Program.runs_of_replay hreplay)
  obtain ⟨text, htext, hprovider⟩ := hagrees "device-1" Crypto.keyPlain (by simp [provisioned, Did])
  obtain rfl := htext
  exact hprovider Crypto.Party.provider Crypto.parse_generatorText

end BtDaemon.FastPair.Provisioning

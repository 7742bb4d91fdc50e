import BtDaemon.Foundation.Table
import BtDaemon.Backend

/-!
# The pairing broker

The broker keeps one table of prompts that wait for an answer and one of values on display.
The sender half of a prompt's one-shot channel is held by its table entry, and is known here
by the prompt's id and the type of answer it takes. Device keys come from the identity
registry, whose answer is an argument of every call that asks it.
-/

namespace BtDaemon.Pairing

inductive EventName where
  | requested
  | display
  | answered
  | cancelled
  deriving DecidableEq, Repr

def EventName.asStr : EventName → String
  | .requested => "requested"
  | .display => "display"
  | .answered => "answered"
  | .cancelled => "cancelled"

structure PairingEvent where
  event : EventName
  requestId : String
  kind : String
  deviceKey : String
  responseRequired : Bool
  value : Option String
  entered : Option UInt16
  service : Option String
  reason : Option String
  timeoutMs : ℕ
  deriving DecidableEq, Repr

namespace PairingEvent

/-- The digits that a display shows as entered are not among the cleared fields. -/
def cancelled (event : PairingEvent) (reason : String) : PairingEvent :=
  { event with
    event := .cancelled
    responseRequired := false
    value := none
    service := none
    reason := some reason
    timeoutMs := 0 }

def answered (event : PairingEvent) (accept : Bool) : PairingEvent :=
  { event.cancelled (if accept then "accepted" else "rejected") with event := .answered }

/-- An event after which its request is over. -/
def isTerminal (event : PairingEvent) : Bool :=
  match event.event with
  | .answered | .cancelled => true
  | .requested | .display => false

@[simp]
theorem requestId_cancelled (event : PairingEvent) (reason : String) :
    (event.cancelled reason).requestId = event.requestId := rfl

@[simp]
theorem requestId_answered (event : PairingEvent) (accept : Bool) :
    (event.answered accept).requestId = event.requestId := rfl

@[simp]
theorem isTerminal_cancelled (event : PairingEvent) (reason : String) :
    (event.cancelled reason).isTerminal = true := rfl

@[simp]
theorem isTerminal_answered (event : PairingEvent) (accept : Bool) :
    (event.answered accept).isTerminal = true := rfl

end PairingEvent

/-! ## Answers -/

inductive ReqError where
  | rejected
  | canceled
  deriving DecidableEq, Repr

/-- What goes back to BlueZ through the one-shot channel. -/
inductive Answer where
  | pin (result : Except ReqError String)
  | passkey (result : Except ReqError UInt32)
  | unit (result : Except ReqError Unit)

inductive PendingResponse where
  | pin
  | passkey
  | unit
  deriving DecidableEq, Repr

structure RespondParams where
  requestId : Param
  accept : Param
  value : Param
  deriving DecidableEq, Repr

def pinValue (params : RespondParams) : Except String String :=
  let value := params.value.asStr
  if value = "" ∨ 16 < value.length then .error "PIN must contain 1 to 16 characters"
  else .ok value

def isAsciiDigit (char : Char) : Bool := '0' ≤ char && char ≤ '9'

/-- `str::parse`, for one to six ASCII digits. -/
def parsePasskey (value : String) : UInt32 :=
  value.toList.foldl (fun number char ↦ number * 10 + (char.toNat - '0'.toNat).toUInt32) 0

def passkeyValue (params : RespondParams) : Except String UInt32 :=
  let value := params.value.asStr
  if value = "" ∨ 6 < value.utf8ByteSize ∨ !value.toList.all isAsciiDigit then
    .error "passkey must contain 1 to 6 digits"
  else .ok (parsePasskey value)

namespace PendingResponse

def validate : PendingResponse → RespondParams → Except String Unit
  | .pin, params => (pinValue params).map fun _ ↦ ()
  | .passkey, params => (passkeyValue params).map fun _ ↦ ()
  | .unit, _ => .ok ()

/-- What `finish` sends. -/
def finish : PendingResponse → ReqError → Answer
  | .pin, error => .pin (.error error)
  | .passkey, error => .passkey (.error error)
  | .unit, error => .unit (.error error)

/-- What `accept` sends. -/
def accept : PendingResponse → RespondParams → Except String Answer
  | .pin, params => (pinValue params).map fun value ↦ .pin (.ok value)
  | .passkey, params => (passkeyValue params).map fun value ↦ .passkey (.ok value)
  | .unit, _ => .ok (.unit (.ok ()))

/-- Parameters that were validated are accepted. -/
theorem accept_of_validate {response : PendingResponse} {params : RespondParams}
    (hvalid : response.validate params = .ok ()) : ∃ answer, response.accept params = .ok answer := by
  cases response with
  | pin =>
    simp only [validate, accept] at hvalid ⊢
    cases hvalue : pinValue params with
    | error reason => rw [hvalue] at hvalid; cases hvalid
    | ok value => exact ⟨_, rfl⟩
  | passkey =>
    simp only [validate, accept] at hvalid ⊢
    cases hvalue : passkeyValue params with
    | error reason => rw [hvalue] at hvalid; cases hvalid
    | ok value => exact ⟨_, rfl⟩
  | unit => exact ⟨_, rfl⟩

end PendingResponse

structure PendingRequest where
  response : PendingResponse
  event : PairingEvent
  deriving DecidableEq, Repr

/-! ## What BlueZ asks for -/

/-- A number of up to six digits, padded with zeros. -/
def sixDigits (number : UInt32) : String :=
  let digits := toString number.toNat
  "".pushn '0' (6 - digits.length) ++ digits

inductive Prompt where
  | pinCode
  | passkey
  | confirmation (passkey : UInt32)
  | authorization
  | service (uuid : String)
  deriving DecidableEq, Repr

namespace Prompt

def kind : Prompt → String
  | .pinCode => "pin-code"
  | .passkey => "passkey"
  | .confirmation _ => "confirmation"
  | .authorization => "authorization"
  | .service _ => "service-authorization"

def value : Prompt → Option String
  | .confirmation number => some (sixDigits number)
  | _ => none

def serviceId : Prompt → Option String
  | .service uuid => some uuid
  | _ => none

def response : Prompt → PendingResponse
  | .pinCode => .pin
  | .passkey => .passkey
  | _ => .unit

end Prompt

inductive Display where
  | pinCode (pincode : String)
  | passkey (passkey : UInt32) (entered : UInt16)
  deriving DecidableEq, Repr

namespace Display

def kind : Display → String
  | .pinCode _ => "display-pin"
  | .passkey _ _ => "display-passkey"

def value : Display → String
  | .pinCode pincode => pincode
  | .passkey number _ => sixDigits number

def entered : Display → Option UInt16
  | .pinCode _ => none
  | .passkey _ entered => some entered

end Display

/-! ## The broker's tables -/

structure PairingBroker where
  sequence : UInt64
  pending : Table String PendingRequest
  displays : Table String PairingEvent
  /-- The published events, oldest first. -/
  events : List PairingEvent

namespace PairingBroker

def init : PairingBroker := ⟨1, ∅, ∅, []⟩

/-- `PROMPT_TIMEOUT` in milliseconds. -/
def promptTimeout : ℕ := 60000

def promptId (broker : PairingBroker) : String := "pairing-" ++ toString broker.sequence.toNat

def displayId (broker : PairingBroker) : String :=
  "pairing-display-" ++ toString broker.sequence.toNat

def emit (broker : PairingBroker) (event : PairingEvent) : PairingBroker :=
  { broker with events := broker.events ++ [event] }

def requestedEvent (id : String) (prompt : Prompt) (deviceKey : String) : PairingEvent where
  event := .requested
  requestId := id
  kind := prompt.kind
  deviceKey := deviceKey
  responseRequired := true
  value := prompt.value
  entered := none
  service := prompt.serviceId
  reason := none
  timeoutMs := promptTimeout

/-- `insert_request`, up to the insertion. -/
def insertRequest (broker : PairingBroker) (prompt : Prompt) (deviceKey : String) :
    PairingBroker :=
  { broker with
    sequence := broker.sequence + 1
    pending := broker.pending.insert broker.promptId
      ⟨prompt.response, requestedEvent broker.promptId prompt deviceKey⟩ }

def displayEvent (id : String) (display : Display) (deviceKey : String) : PairingEvent where
  event := .display
  requestId := id
  kind := display.kind
  deviceKey := deviceKey
  responseRequired := false
  value := some display.value
  entered := display.entered
  service := none
  reason := none
  timeoutMs := 0

/-- `display`, up to the insertion. A newer display replaces an older one of its device and
kind without an event. -/
def display (broker : PairingBroker) (display : Display) (deviceKey : String) : PairingBroker :=
  { broker with
    sequence := broker.sequence + 1
    displays := (broker.displays.retain fun _ old ↦
        old.deviceKey != deviceKey || old.kind != display.kind).insert broker.displayId
      (displayEvent broker.displayId display deviceKey) }

/-- The event of `cancelled`, which is built afresh and not from the display's own event. -/
def displayCancelled (id kind deviceKey : String) : PairingEvent where
  event := .cancelled
  requestId := id
  kind := kind
  deviceKey := deviceKey
  responseRequired := false
  value := none
  entered := none
  service := none
  reason := some "cancelled"
  timeoutMs := 0

/-- `respond` while it holds the lock of the pending prompts: the prompt that it takes. -/
def takeResponse (broker : PairingBroker) (params : RespondParams) :
    Except String (String × PendingRequest × Bool) :=
  match params.requestId.requireString "request_id", params.accept.requireBool "accept" with
  | .error reason, _ | .ok _, .error reason => .error reason
  | .ok requestId, .ok accept =>
    match broker.pending.lookup requestId with
    | none => .error "pairing request is no longer pending"
    | some request =>
      match accept, request.response.validate params with
      | true, .error reason => .error reason
      | _, _ => .ok (requestId, request, accept)

/-- A prompt that is taken was pending, and an acceptance of it is valid. -/
theorem takeResponse_eq_ok {broker : PairingBroker} {params : RespondParams} {id : String}
    {request : PendingRequest} {accept : Bool}
    (htake : broker.takeResponse params = .ok (id, request, accept)) :
    broker.pending.lookup id = some request ∧
      (accept = true → request.response.validate params = .ok ()) := by
  unfold takeResponse at htake
  split at htake
  · cases htake
  · cases htake
  · split at htake
    · cases htake
    · next found hfound =>
      split at htake
      · cases htake
      · next hvalid =>
        obtain ⟨rfl, hrest⟩ := Prod.mk.inj (Except.ok.inj htake)
        obtain ⟨rfl, rfl⟩ := Prod.mk.inj hrest
        refine ⟨hfound, ?_⟩
        rintro rfl
        cases hresult : found.response.validate params with
        | error reason => exact absurd hresult (hvalid reason rfl)
        | ok _ => rfl

end PairingBroker

end BtDaemon.Pairing

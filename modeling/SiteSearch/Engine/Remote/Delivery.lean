import SiteSearch.Connection.Retry
import SiteSearch.Engine.Remote.Reply
import SiteSearch.Engine.Remote.Request

/-!
# Delivering requests

A request goes to the hosts in their order until one of them settles it. A host that cannot be
connected to leaves it to the next one. When a connection was there but no reply came, the request
may have arrived: one that may be sent again then goes to the next host, and one that may be sent at
most once ends there. A round over all hosts that ends with a transport error is made again as the
policy says, but only for requests that may be sent again.
-/
namespace SiteSearch.Remote

/-- What becomes of a request at one host. -/
inductive Transmission where
  | replied (reply : Reply)
  /-- There was no connection, so nothing was sent. -/
  | notConnected (detail : String)
  | timedOut (detail : String)
  /-- Sending failed in another way. -/
  | broken (detail : String)
  /-- A reply began, but it ended early. -/
  | cutOff (detail : String)
  deriving DecidableEq, Repr

/-- What a transmission means for the request. -/
inductive Verdict where
  /-- The request is done with. -/
  | settled (result : Except EngineError Reply)
  /-- The next host is tried; if there is none, the error stands. -/
  | goOn (error : EngineError)

/-- An error after which it is not known whether the request arrived. -/
def Delivery.afterLoss (delivery : Delivery) (error : EngineError) : Verdict :=
  match delivery with
  | .retryable => .goOn error
  | .atMostOnce => .settled (.error error)

/-- What a transmission means for a request. -/
def Transmission.verdict (delivery : Delivery) : Transmission → Verdict
  | replied reply => .settled (.ok reply)
  | cutOff detail => .settled (.error (.transport ("Failed to read response: " ++ detail)))
  | notConnected detail => .goOn (.transport ("Failed to connect: " ++ detail))
  | timedOut detail => delivery.afterLoss (.transport ("Request timeout: " ++ detail))
  | broken detail => delivery.afterLoss (.transport ("Request failed: " ++ detail))

section Rounds

variable {m : Type → Type} [Monad m] {η : Type}

/-- One round over the hosts; `last` is the error of the host before. A host for which there is no
request at all ends the round. -/
def round (transmit : η → m (Except EngineError Transmission)) (delivery : Delivery)
    (last : EngineError) : List η → m (Except EngineError Reply)
  | [] => pure (.error last)
  | host :: hosts => do
    match ← transmit host with
    | .error error => pure (.error error)
    | .ok transmission =>
      match transmission.verdict delivery with
      | .settled result => pure result
      | .goOn error => round transmit delivery error hosts

/-- The error of a round over no hosts. -/
def noHosts : EngineError := .transport "no hosts configured"

/-- The policy that a request is sent with. -/
def Delivery.policy (delivery : Delivery) (policy : RetryPolicy) : RetryPolicy :=
  match delivery with
  | .retryable => policy
  | .atMostOnce => .once

/-- Rounds over the hosts as the policy says, without looking at more than `look` of them. -/
def deliver (transmit : η → m (Except EngineError Transmission)) (sleep : Duration → m Unit)
    (delivery : Delivery) (policy : RetryPolicy) (hosts : List η) (look : Nat) :
    m (Option (Except EngineError Reply)) :=
  (delivery.policy policy).attempts EngineError.isTransient sleep
    (round transmit delivery noHosts hosts) look

end Rounds

end SiteSearch.Remote

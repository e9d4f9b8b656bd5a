import WayBalancer.CacheStore
import WayBalancer.SeenWindow
/-!
# PeerDeliveries — the attempts to deliver an invalidation to a peer

`HttpCachePeerTransport::publish` of `crates/admin-api/src/cache_transport.rs`, for one peer.  An attempt is signed with a nonce
made of the event and the second of the wall clock; a peer refuses a nonce it still knows.
-/
namespace WayBalancer

open Str

/-- What happens at each attempt: whether its request is built (the origin parses and the secret is there), when, and whether
the peer takes it and its answer comes back. -/
structure PeerWire where
  signs : ℕ → Bool
  unixSecs : ℕ → ℕ
  answered : ℕ → Bool

def HttpCacheInvalidationEvent.nonce (event : HttpCacheInvalidationEvent) (timestamp : ℕ) : Text :=
  lit "fanout-" ++ event.eventId ++ '-' :: Nat.toDigits 10 timestamp

/-- The attempts from number `k` on, with so many left after it. -/
def PeerWire.attempts (wire : PeerWire) (k : ℕ) : ℕ → List ℕ
  | 0        => [k]
  | left + 1 => if wire.signs k && wire.answered k then [k] else k :: wire.attempts (k + 1) left

/-- The requests sent to a peer, by the numbers of their attempts; a retry policy has at least one. -/
def PeerWire.sent (wire : PeerWire) (maxAttempts : ℕ) : List ℕ := (wire.attempts 0 (max maxAttempts 1 - 1)).filter wire.signs

theorem HttpCacheInvalidationEvent.nonce_injective (event : HttpCacheInvalidationEvent) : Function.Injective event.nonce := by
  intro t t' h
  have hdig := (List.cons.inj (List.append_cancel_left h)).2
  exact Option.some.inj ((parseDecimal_toDigits t).symm.trans (hdig ▸ parseDecimal_toDigits t'))

/-- **The requests sent to a peer have nonces of their own, and none is refused as a replay whenever they arrive, exactly where
no two of them are made in one second.** -/
theorem deliveries_fresh_iff (event : HttpCacheInvalidationEvent) (actor : Text) (maxAttempts : ℕ) (wire : PeerWire) :
    let nonce := fun k => event.nonce (wire.unixSecs k)
    let sent := wire.sent maxAttempts
    ((sent.map nonce).Nodup ∧ ∀ (nonceTtl : ℕ) (arrival : ℕ → ℕ) (nonces : SortedMap Text ℕ),
      (∀ k ∈ sent, nonces.get? (actor ++ ':' :: nonce k) = none) →
        SeenWindow.admitted nonceTtl arrival (fun k => actor ++ ':' :: nonce k) nonces sent = sent) ↔
    (sent.map wire.unixSecs).Nodup := by
  intro nonce sent
  have hnd : (sent.map nonce).Nodup ↔ (sent.map wire.unixSecs).Nodup := by
    rw [← List.nodup_map_iff event.nonce_injective, List.map_map]
    rfl
  rw [← hnd]
  refine ⟨And.left, fun h => ⟨h, fun nonceTtl arrival nonces hnew => SeenWindow.admitted_of_nodup ?_ hnew⟩⟩
  have hk := h.map (f := fun n => actor ++ ':' :: n) (fun n n' e => (List.cons.inj (List.append_cancel_left e)).2)
  rwa [List.map_map] at hk

/-- The answer is lost and the second attempt follows within the second: the peer refuses it. -/
theorem delivery_replayed :
    let event : HttpCacheInvalidationEvent := ⟨lit "e", [], [], .pathPrefix []⟩
    let wire : PeerWire := ⟨fun _ => true, fun _ => 7, fun k => k == 1⟩
    wire.sent 3 = [0, 1] ∧
      SeenWindow.admitted 60 (fun _ => 0) (fun k => lit "peer:" ++ event.nonce (wire.unixSecs k)) .empty (wire.sent 3) = [0] := by
  decide +kernel

end WayBalancer

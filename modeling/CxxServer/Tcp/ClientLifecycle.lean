import CxxServer.Tcp.Client

/-!
**The lifecycle callbacks of a client.**

A client reports its lifecycle through `onConnect`, `onDisconnect` and, for `SSL::Client`,
`onHandshaked`; the model keeps every callback the client makes, in order, in
`Client.callbacks`.  This module follows the connected flag along a run (`Client.trace`, the
clients a run passes through) and counts how often it goes up and down (`flagRises`,
`flagFalls`), so that the callbacks can be set against the changes they report.

They do not match.  The completion handler of `Tcp::Client::connectAsync` sets `_connected` once
and calls `onConnect()` twice, before and after `tryReceive()`
(`Client.connectedHandler_of_disconnected`).  And `SSL::Client::connect`, when the handshake fails
after the flag was set, calls `onDisconnect()` and leaves the flag set.

Main definitions:

* `CxxServer.Tcp.Client.trace` — the clients a run passes through;
* `CxxServer.Tcp.flagRises`, `CxxServer.Tcp.flagFalls` — the changes of a flag along them.

Main results:

* `CxxServer.Tcp.Client.connectedHandler_of_disconnected` — the connect completion's success
  path, with its two `onConnect` calls;
* `CxxServer.Tcp.Client.client_connect_callbacks` — **one change of the flag, two `onConnect`
  calls**, for every client the completion finds disconnected and on a run of a plain client,
  and a run of a TLS client that calls `onDisconnect` with the flag still set.
-/

set_option relaxedAutoImplicit false
set_option autoImplicit false

namespace CxxServer

namespace Tcp

/-! ### Changes of a flag -/

/-- How often a sequence of flag values goes from `false` to `true`. -/
def flagRises : List Bool → Nat
  | a :: b :: l => (if !a && b then 1 else 0) + flagRises (b :: l)
  | _ => 0

/-- How often a sequence of flag values goes from `true` to `false`. -/
def flagFalls : List Bool → Nat
  | a :: b :: l => (if a && !b then 1 else 0) + flagFalls (b :: l)
  | _ => 0

namespace Client

/-- The clients a run passes through, the first one included; `none` as soon as an event cannot
happen. -/
def trace : Client → List Event → Option (List Client)
  | c, [] => some [c]
  | c, e :: es => (c.step e).bind fun c' => (trace c' es).map (c :: ·)

/-! ### The connect completion -/

@[simp] theorem count_onConnect_call (c : Client) (cb : Callback) :
    (c.call cb).callbacks.count .onConnect =
      c.callbacks.count .onConnect + if cb = .onConnect then 1 else 0 := by
  unfold call; rw [List.count_append, List.count_singleton]; cases cb <;> rfl

@[simp] theorem tryReceive_callbacks (c : Client) : c.tryReceive.callbacks = c.callbacks := by
  unfold tryReceive; split <;> rfl

@[simp] theorem emptyCheck_count_onConnect (c : Client) :
    c.emptyCheck.callbacks.count .onConnect = c.callbacks.count .onConnect := by
  unfold emptyCheck; split <;> simp

/-- The completion of `Tcp::Client::connectAsync` that finds the client disconnected and
reports no error: set the client up, then `onConnect`, `tryReceive`, `onConnect` and the
`onEmpty` check. -/
theorem connectedHandler_of_disconnected (c : Client) (rcvbuf : Nat) (h : c.connected = false) :
    c.connectedHandler rcvbuf none = ((((({ c with connecting := false }.setUp rcvbuf).call
      .onConnect).tryReceive).call .onConnect).emptyCheck) := by
  simp [connectedHandler, h]

@[simp] theorem emptyCheck_connected (c : Client) : c.emptyCheck.connected = c.connected := by
  unfold emptyCheck; split <;> rfl

@[simp] theorem tryReceive_connected (c : Client) : c.tryReceive.connected = c.connected := by
  unfold tryReceive; split <;> rfl

/-- A plain client connects asynchronously: the user call, its posted handler, and the connect
completing. -/
def asyncConnect : List Event := [.connectAsync, .connectHandler, .connectDone 0 4 none]

/-- A TLS client whose blocking connect succeeds and whose handshake fails. -/
def failedHandshake : List Event := [.connect 4 none (some (.other 1))]

/-- **The lifecycle callbacks do not count the changes of the connected flag.**  For every client
the completion of `connectAsync` finds disconnected, it sets the flag once and calls `onConnect`
twice; on the run `asyncConnect` of a plain client the flag rises once and never falls while
`onConnect` is called twice; and on the run `failedHandshake` of a TLS client the flag rises
once and never falls, no attempt fails before the flag is set, yet `onDisconnect` is called. -/
theorem client_connect_callbacks :
    (∀ (c : Client) (rcvbuf : Nat), c.connected = false →
      (c.connectedHandler rcvbuf none).connected = true ∧
        (c.connectedHandler rcvbuf none).callbacks.count .onConnect =
          c.callbacks.count .onConnect + 2) ∧
    (∃ cs, (Client.init false).trace asyncConnect = some cs ∧
      flagRises (cs.map connected) = 1 ∧ flagFalls (cs.map connected) = 0 ∧
      cs.getLast?.map (fun c => c.callbacks.count .onConnect) = some 2) ∧
    (∃ cs, (Client.init true).trace failedHandshake = some cs ∧
      flagRises (cs.map connected) = 1 ∧ flagFalls (cs.map connected) = 0 ∧
      cs.getLast?.map (fun c => (c.connected, c.callbacks)) =
        some (true, [.onConnect, .onErr (.other 1), .onDisconnect])) :=
  ⟨fun c rcvbuf h => by
      rw [connectedHandler_of_disconnected c rcvbuf h]
      exact ⟨by simp [call, setUp], by simp [setUp]⟩,
    ⟨_, rfl, by decide⟩, ⟨_, rfl, by decide⟩⟩

end Client

end Tcp

end CxxServer

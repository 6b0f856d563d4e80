import VoxDesktop.Library.Machine
import VoxDesktop.Qt.Text
import Mathlib.Data.Int.Notation
import Mathlib.Order.Defs.LinearOrder

/-!
# The realtime socket

`network/RealtimeSocket`, built with Qt WebSockets, as a machine over the
calls from outside and the signals of its web socket and its reconnect timer.
A step is permitted when Qt can bring the event about: the socket signals
`connected` while it is connecting, `disconnected` while it is not
unconnected, and the single-shot timer fires while it is active.

`close` stops the timer, but an open socket signals `disconnected` after it
has been closed, and that starts the timer again.
-/

namespace VoxDesktop
namespace Network

open Library Qt

/-- A URL, and whether `QUrl::isValid` holds of it.  The application passes
URLs of the schemes `ws` and `wss` only. -/
structure QUrl where
  text : QString
  isValid : Bool

/-- State of the `QWebSocket`.  Closing it while it connects does not end the
attempt; closing it while it is connected starts the closing handshake. -/
inductive WebSocketState
  | unconnected
  | connecting
  | connected
  | closing
  deriving DecidableEq

structure RealtimeSocket where
  m_socket : WebSocketState
  /-- Delay in milliseconds while the timer is active. -/
  m_reconnectTimer : Option ℕ
  m_url : QUrl
  m_accessToken : QString
  m_reconnectAttempt : ℤ

/-- The request handed to `QWebSocket::open`. -/
structure SocketRequest where
  url : QUrl
  /-- Value of the header `Authorization`. -/
  authorization : Option QByteArray

inductive SocketEvent
  | connectAndAuthenticate (url : QUrl) (accessToken : QString)
  | connected
  | disconnected
  | timeout
  | close

/-- Events other than a call of `connectAndAuthenticate` from outside. -/
def SocketEvent.IsInside : SocketEvent → Prop
  | connectAndAuthenticate _ _ => False
  | _ => True

namespace RealtimeSocket

/-- A socket as it is constructed. -/
def constructed : RealtimeSocket where
  m_socket := .unconnected
  m_reconnectTimer := none
  m_url := ⟨[], false⟩
  m_accessToken := []
  m_reconnectAttempt := 0

section Operations

variable (socket : RealtimeSocket)

/-- `QWebSocket::open` refuses an invalid URL and otherwise starts a new
attempt. -/
def connectAndAuthenticate (url : QUrl) (accessToken : QString) :
    SocketRequest × RealtimeSocket :=
  let authorization :=
    if accessToken = [] then none
    else some (toUtf8 (QString.literal "Bearer " ++ accessToken))
  (⟨url, authorization⟩,
    { socket with
      m_url := url
      m_accessToken := accessToken
      m_socket := if url.isValid then .connecting else socket.m_socket })

def close : RealtimeSocket :=
  { socket with
    m_reconnectTimer := none
    m_socket :=
      match socket.m_socket with
      | .connected => .closing
      | other => other }

def onConnected : RealtimeSocket :=
  { socket with m_reconnectAttempt := 0 }

def scheduleReconnect : RealtimeSocket :=
  let attempt := socket.m_reconnectAttempt + 1
  let capped := min attempt 6
  { socket with
    m_reconnectAttempt := attempt
    m_reconnectTimer := some ((1 <<< capped.toNat) * 250) }

def onDisconnected : RealtimeSocket := socket.scheduleReconnect

/-- The handler connected to `QTimer::timeout`. -/
def onTimeout : Option SocketRequest × RealtimeSocket :=
  if socket.m_url.isValid then
    let opened :=
      socket.connectAndAuthenticate socket.m_url socket.m_accessToken
    (some opened.1, opened.2)
  else (none, socket)

end Operations

/-- A step with the request it hands to the web socket; nothing for an event
that Qt does not bring about in this state. -/
def step (socket : RealtimeSocket) :
    SocketEvent → Option (Option SocketRequest × RealtimeSocket)
  | .connectAndAuthenticate url accessToken =>
      let opened := socket.connectAndAuthenticate url accessToken
      some (some opened.1, opened.2)
  | .connected =>
      if socket.m_socket = .connecting then
        some (none, { socket with m_socket := .connected }.onConnected)
      else none
  | .disconnected =>
      if socket.m_socket = .unconnected then none
      else
        some (none, { socket with m_socket := .unconnected }.onDisconnected)
  | .timeout =>
      if socket.m_reconnectTimer = none then none
      else some { socket with m_reconnectTimer := none }.onTimeout
  | .close => some (none, socket.close)

/-- Until `connectAndAuthenticate` is called from outside, nothing is handed
to the web socket any more: no connection is opened and no token sent. -/
def StaysClosed (socket : RealtimeSocket) : Prop :=
  ∀ events outputs final,
    (∀ event ∈ events, SocketEvent.IsInside event) →
      Machine.execute step socket events = some (outputs, final) →
        ∀ output ∈ outputs, output = none

/-! ## When a closed socket stays closed -/

/-- Nothing is under way that could end in a reconnect. -/
structure Idle (socket : RealtimeSocket) : Prop where
  unconnected : socket.m_socket = .unconnected
  noTimer : socket.m_reconnectTimer = none

variable {socket : RealtimeSocket}

/-- On an idle socket only calls happen. -/
theorem step_idle
    {event : SocketEvent} {output : Option SocketRequest}
    {next : RealtimeSocket}
    (inside : event.IsInside)
    (idle : Idle socket)
    (taken : socket.step event = some (output, next)) :
    output = none ∧ Idle next := by
  cases event with
  | connectAndAuthenticate url accessToken => exact inside.elim
  | connected => simp [step, idle.unconnected] at taken
  | disconnected => simp [step, idle.unconnected] at taken
  | timeout => simp [step, idle.noTimer] at taken
  | close =>
      obtain ⟨rfl, rfl⟩ := Prod.mk.inj (Option.some.inj taken)
      exact ⟨rfl, by simp [close, idle.unconnected], rfl⟩

/-- Without a valid URL the timer fires in vain. -/
theorem step_invalid
    {event : SocketEvent} {output : Option SocketRequest}
    {next : RealtimeSocket}
    (inside : event.IsInside)
    (invalid : socket.m_url.isValid = false)
    (taken : socket.step event = some (output, next)) :
    output = none ∧ next.m_url.isValid = false := by
  cases event with
  | connectAndAuthenticate url accessToken => exact inside.elim
  | connected =>
      simp only [step, Option.ite_none_right_eq_some, Option.some.injEq,
        Prod.mk.injEq] at taken
      obtain ⟨_, rfl, rfl⟩ := taken
      exact ⟨rfl, invalid⟩
  | disconnected =>
      simp only [step, Option.ite_none_left_eq_some, Option.some.injEq,
        Prod.mk.injEq] at taken
      obtain ⟨_, rfl, rfl⟩ := taken
      exact ⟨rfl, invalid⟩
  | timeout =>
      simp only [step, onTimeout, invalid, Bool.false_eq_true, if_false,
        Option.ite_none_left_eq_some, Option.some.injEq, Prod.mk.injEq]
        at taken
      obtain ⟨_, rfl, rfl⟩ := taken
      exact ⟨rfl, invalid⟩
  | close =>
      obtain ⟨rfl, rfl⟩ := Prod.mk.inj (Option.some.inj taken)
      exact ⟨rfl, invalid⟩

/-- A socket that is not unconnected and has a valid URL reconnects once it
has lost its connection. -/
theorem not_staysClosed_of_open
    (notUnconnected : socket.m_socket ≠ .unconnected)
    (valid : socket.m_url.isValid = true) :
    ¬ StaysClosed socket := by
  intro stays
  have inside : ∀ event ∈ [SocketEvent.disconnected, .timeout],
      event.IsInside := by
    simp [SocketEvent.IsInside]
  obtain ⟨request, final, executed⟩ : ∃ request final,
      Machine.execute step socket [.disconnected, .timeout] =
        some ([none, some request], final) := by
    simp [Machine.execute, step, notUnconnected, onDisconnected,
      scheduleReconnect, onTimeout, valid]
  have silent :=
    stays _ _ _ inside executed (some request) (.tail _ (.head _))
  contradiction

theorem close_unconnected_iff :
    socket.close.m_socket = .unconnected ↔
      socket.m_socket = .unconnected := by
  cases state : socket.m_socket <;> simp [close, state]

/-- After `close` the socket stays closed exactly when it was unconnected or
its stored URL is not valid. -/
theorem close_stays_closed_iff (socket : RealtimeSocket) :
    StaysClosed socket.close ↔
      socket.m_socket = .unconnected ∨ socket.m_url.isValid = false := by
  constructor
  · intro stays
    by_contra opens
    rw [not_or, Bool.not_eq_false] at opens
    have openAfterClose : socket.close.m_socket ≠ .unconnected :=
      mt close_unconnected_iff.mp opens.1
    exact not_staysClosed_of_open openAfterClose opens.2 stays
  · rintro (unconnected | invalid) events outputs final inside executed
    · have idle : Idle socket.close :=
        ⟨close_unconnected_iff.mpr unconnected, rfl⟩
      exact (Machine.execute_invariant_of_inputs SocketEvent.IsInside Idle
        (fun output => output = none)
        (fun _ _ _ _ inside idle taken => step_idle inside idle taken)
        idle inside executed).1
    · exact (Machine.execute_invariant_of_inputs SocketEvent.IsInside
        (fun socket => socket.m_url.isValid = false)
        (fun output => output = none)
        (fun _ _ _ _ inside invalid taken => step_invalid inside invalid taken)
        invalid inside executed).1

/-- Closing a connected socket: its `disconnected` signal starts the timer,
and the timer opens a connection with the stored token. -/
theorem close_connected_reconnects :
    let url : QUrl := ⟨QString.literal "ws://fake/v1/ws", true⟩
    let token := QString.literal "token"
    let bearer := QByteArray.literal "Bearer token"
    (Machine.execute step constructed
      [.connectAndAuthenticate url token, .connected, .close, .disconnected,
        .timeout]).map (fun executed => executed.1.map fun output =>
          output.map SocketRequest.authorization) =
      some [some (some bearer), none, none, none, some (some bearer)] ∧
    ∃ outputs opened,
      Machine.execute step constructed
          [.connectAndAuthenticate url token, .connected] =
        some (outputs, opened) ∧
      ¬ StaysClosed opened.close := by
  intro url token bearer
  refine ⟨by decide +kernel, _, _, rfl, ?_⟩
  apply not_staysClosed_of_open
  · exact WebSocketState.noConfusion
  · rfl

end RealtimeSocket
end Network
end VoxDesktop

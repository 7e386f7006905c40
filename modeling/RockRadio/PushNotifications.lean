import RockRadio.Library.EventSystem
import RockRadio.Library.LastWrite

/-!
# Storing the push token

Firebase Messaging delivers registration tokens to its delegate, which writes them to the device's
document. The delegate is a `PushNotificationManager` that only a local variable of
`didFinishLaunchingWithOptions` holds, and Messaging refers to it weakly. Messaging itself keeps
the latest token, across launches.

## Main results

* `stored_iff_received` — the last token delivered is always the last one written, exactly when
  every token that is not already the last one written is delivered while the manager is alive.
-/

namespace RockRadio

structure PushNotificationManager where
  userID : String
  deriving DecidableEq

/-- `setData(["fcm": …], merge: true)` on the document of `users_token` with this id. -/
structure TokenWrite where
  document : String
  fcm : Option String
  deriving DecidableEq

/-- The app and the token service, over any number of launches. -/
structure Push where
  /-- `Messaging.messaging().fcmToken` -/
  fcmToken : Option String := none
  /-- The local variable of `didFinishLaunchingWithOptions`, while that method runs. -/
  pushManager : Option PushNotificationManager := none
  /-- `Messaging.messaging().delegate`, as it was assigned. -/
  delegate : Option PushNotificationManager := none
  writes : List TokenWrite := []
  /-- The last token delivered. -/
  delivered : Option String := none
  deriving DecidableEq

namespace Push

variable (deviceID : String) (s : Push)

/-- A weak reference is `nil` once nobody holds the object. -/
def liveDelegate : Option PushNotificationManager :=
  if s.pushManager.isSome then s.delegate else none

/-- A new process: the manager and the reference to it are gone. -/
def launch : Push := { s with pushManager := none, delegate := none }

def updateFirestorePushTokenIfNeeded (manager : PushNotificationManager) : Push :=
  match s.fcmToken with
  | some token => { s with writes := s.writes ++ [⟨manager.userID, some token⟩] }
  | none => s

/-- `let pushManager = …; pushManager.registerForPushNotifications()` -/
def registerForPushNotifications : Push :=
  let pushManager := ⟨deviceID⟩
  { s with pushManager := some pushManager, delegate := some pushManager
    }.updateFirestorePushTokenIfNeeded pushManager

/-- `didFinishLaunchingWithOptions` returns. -/
def didFinishLaunching : Push := { s with pushManager := none }

/-- Messaging saves a token and hands it to its delegate, which writes it, even if it is `nil`. -/
def didReceiveRegistrationToken (fcmToken : Option String) : Push :=
  let s := { s with fcmToken, delivered := fcmToken.or s.delivered }
  match s.liveDelegate with
  | some manager => { s with writes := s.writes ++ [⟨manager.userID, fcmToken⟩] }
  | none => s

inductive Event where
  | launch
  | registerForPushNotifications
  | didFinishLaunching
  | didReceiveRegistrationToken (fcmToken : Option String)

def next : Event → Push
  | .launch => s.launch
  | .registerForPushNotifications => s.registerForPushNotifications deviceID
  | .didFinishLaunching => s.didFinishLaunching
  | .didReceiveRegistrationToken fcmToken => s.didReceiveRegistrationToken fcmToken

/-- The app may be terminated and launched again at any time, and tokens come at any time. -/
def system : EventSystem Push Event Empty where
  enabled _ _ := True
  step s e := .ok (next deviceID s e)

/-- The token that a write stores in the device's document. -/
def stored (w : TokenWrite) : Option String := if w.document = deviceID then w.fcm else none

/-- The last token written to the device's document. -/
def lastWritten (writes : List TokenWrite) : Option String :=
  Register.written (stored deviceID) writes

/-- The last token delivered is the last one written. -/
def Stored : Prop :=
  ∀ token, s.delivered = some token → lastWritten deviceID s.writes = some token

/-- A token is delivered while the manager is alive, or was the last one written anyway. -/
def Received : Event → Prop
  | .didReceiveRegistrationToken (some token) =>
    s.liveDelegate.isSome = true ∨ lastWritten deviceID s.writes = some token
  | _ => True

/-- Messaging keeps a token that was delivered, and the manager has the device's id. -/
structure Consistent : Prop where
  saved : ∀ token, s.fcmToken = some token → s.delivered = some token
  device : ∀ manager, s.delegate = some manager → manager.userID = deviceID

variable {deviceID} {s} {e : Event}

theorem lastWritten_concat (writes : List TokenWrite) (w : TokenWrite) :
    lastWritten deviceID (writes ++ [w]) =
      (stored deviceID w).or (lastWritten deviceID writes) :=
  Register.written_concat _ _ _

theorem liveDelegate_userID (h : Consistent deviceID s) {manager : PushNotificationManager}
    (live : s.liveDelegate = some manager) : manager.userID = deviceID := by
  simp only [liveDelegate] at live
  split at live
  · exact h.device manager live
  · cases live

theorem Consistent.next (h : Consistent deviceID s) (e : Event) :
    Consistent deviceID (next deviceID s e) := by
  cases e with
  | launch => exact ⟨h.saved, nofun⟩
  | registerForPushNotifications =>
    simp only [Push.next, registerForPushNotifications, updateFirestorePushTokenIfNeeded]
    split <;> exact ⟨h.saved, fun manager hm => by cases hm; rfl⟩
  | didFinishLaunching => exact ⟨h.saved, h.device⟩
  | didReceiveRegistrationToken fcmToken =>
    simp only [Push.next, didReceiveRegistrationToken]
    split <;> exact ⟨fun token ht => by cases ht; rfl, h.device⟩

/-- Registering writes the token that Messaging kept, which is the last one delivered. -/
theorem registerForPushNotifications_stored (h : Consistent deviceID s)
    (before : Stored deviceID s) : Stored deviceID (s.registerForPushNotifications deviceID) := by
  intro token delivered
  simp only [registerForPushNotifications, updateFirestorePushTokenIfNeeded] at delivered ⊢
  cases hToken : s.fcmToken with
  | none =>
    simp only [hToken] at delivered ⊢
    exact before token delivered
  | some saved =>
    simp only [hToken] at delivered ⊢
    have same : saved = token := by simpa [delivered] using (h.saved saved hToken).symm
    rw [lastWritten_concat]
    simp [stored, same]

/-- A delivery to the live manager is written; any other has to be there already. -/
theorem didReceiveRegistrationToken_stored_iff (h : Consistent deviceID s)
    (before : Stored deviceID s) (fcmToken : Option String) :
    Stored deviceID (s.didReceiveRegistrationToken fcmToken) ↔
      Received deviceID s (.didReceiveRegistrationToken fcmToken) := by
  have sameLive : liveDelegate { s with fcmToken, delivered := fcmToken.or s.delivered } =
    s.liveDelegate := rfl
  simp only [Stored, didReceiveRegistrationToken, sameLive]
  cases hLive : s.liveDelegate with
  | none =>
    cases fcmToken with
    | none => exact iff_of_true before trivial
    | some token => simp [Received, hLive]
  | some manager =>
    have device := liveDelegate_userID h hLive
    simp only [lastWritten_concat, stored, device, if_true]
    cases fcmToken with
    | none => exact iff_of_true before trivial
    | some token => simp [Received, hLive]

/-- Where the last token is stored, an event keeps it so exactly when it is received. -/
theorem next_stored_iff (h : Consistent deviceID s) (before : Stored deviceID s) :
    Stored deviceID (next deviceID s e) ↔ Received deviceID s e := by
  cases e with
  | launch => exact iff_of_true before trivial
  | registerForPushNotifications =>
    exact iff_of_true (registerForPushNotifications_stored h before) trivial
  | didFinishLaunching => exact iff_of_true before trivial
  | didReceiveRegistrationToken fcmToken =>
    exact didReceiveRegistrationToken_stored_iff h before fcmToken

/-- Over every sequence of launches and deliveries, the last token delivered is always the last one
written, exactly when every token is delivered to a live manager or was already the last. -/
theorem stored_iff_received (deviceID : String) {es : List Event} {s : Push}
    (run : (system deviceID).Exec {} es s) :
    (system deviceID).Always (Stored deviceID) {} es ↔
      (system deviceID).AllSteps (Received deviceID) {} es := by
  refine run.always_iff_allSteps (I := Consistent deviceID) ⟨nofun, nofun⟩ nofun ?_ ?_
  · rintro s e t h _ ⟨⟩
    exact h.next e
  · rintro s e t h before _ ⟨⟩
    exact next_stored_iff h before

/-- A token delivered while `didFinishLaunchingWithOptions` still runs. -/
theorem stored_iff_received_launching :
    (system "device").Always (Stored "device") {}
        [.launch, .registerForPushNotifications, .didReceiveRegistrationToken (some "token")] ↔
      (system "device").AllSteps (Received "device") {}
        [.launch, .registerForPushNotifications, .didReceiveRegistrationToken (some "token")] :=
  stored_iff_received "device" (.cons trivial rfl (.cons trivial rfl (.cons trivial rfl (.nil _))))

/-- On a first launch the token arrives after `didFinishLaunchingWithOptions` returned, when the
manager is gone: it is never written in that session. -/
theorem first_token_lost :
    ¬ ∀ (es : List Event) (s : Push), (system "device").Exec {} es s → Stored "device" s := by
  intro claim
  have stored := claim [.launch, .registerForPushNotifications, .didFinishLaunching,
    .didReceiveRegistrationToken (some "token")] _
    (.cons trivial rfl (.cons trivial rfl (.cons trivial rfl (.cons trivial rfl (.nil _)))))
    "token" rfl
  exact absurd stored (by decide)

end Push

end RockRadio

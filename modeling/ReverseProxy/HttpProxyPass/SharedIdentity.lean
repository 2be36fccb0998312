import Mathlib.Logic.Function.Basic
import ReverseProxy.HttpProxyPass.SendPayload
import ReverseProxy.Library.Runs

/-!
# Streams that share one identity slot

The streams of an HTTP/2 connection for one host share an `HttpProxyPass`.  A
stream stores the user it has signed in and later loads the slot; in between
other streams take steps.
-/

namespace ReverseProxy

open HttpProxyPass Library

inductive StreamPhase where
  | idle
  | arrived (request : HyperRequest)
  /-- `handle_auth_with_g_auth` has passed and nothing is stored yet. -/
  | signedIn (user : Option Str)
  /-- The list of allowed users comes next. -/
  | stored
  /-- Header values are made, the upstream is asked, and the headers of its
  response are modified. -/
  | admitted
  | left
deriving DecidableEq, Repr

/-- One request, with what it has proved and what it has used. -/
structure Stream where
  phase : StreamPhase := .idle
  proved : Option HttpProxyPassIdentity := none
  loaded : List (Option HttpProxyPassIdentity) := []
  decision : Option (AllowedUsersList × Bool) := none

/-- Between its store and its last load. -/
def Stream.inFlight (stream : Stream) : Prop := stream.phase = .stored ∨ stream.phase = .admitted

structure SharedPass where
  pass : HttpProxyPass
  /-- The identity of the client certificate, which the slot starts with. -/
  certificate : Option HttpProxyPassIdentity
  streams : Nat → Stream := fun _ => {}

namespace SharedPass

def fresh (info : HttpEndpointInfo) (listenHost : Str)
    (clientCert : Option ClientCertificateData) : SharedPass :=
  { pass := .new info listenHost clientCert
    certificate := clientCert.map .clientCert }

variable (shared : SharedPass)

def set (id : Nat) (stream : Stream) : SharedPass :=
  { shared with streams := Function.update shared.streams id stream }

@[simp] theorem set_streams_self (id : Nat) (stream : Stream) :
    (shared.set id stream).streams id = stream := by
  simp [set]

theorem set_streams_of_ne {id other : Nat} (stream : Stream) (different : other ≠ id) :
    (shared.set id stream).streams other = shared.streams other := by
  simp [set, different]

end SharedPass

/-- The user who signed in, else the client certificate. -/
def provedIdentity (certificate : Option HttpProxyPassIdentity) :
    Option Str → Option HttpProxyPassIdentity
  | some email => some (.googleUser email)
  | none => certificate

inductive StreamAction where
  | arrive (request : HyperRequest)
  | signIn (app : AppCtx)
  | store
  | check (lists : AllowedUsersList)
  | load
  | leave

section

variable [StrUtils]

/-- One step of one stream.  A stream can leave at any time: it is answered, it
fails, or its response is complete. -/
inductive SharedStep : SharedPass → Nat × StreamAction → SharedPass → Prop where
  | arrive {shared : SharedPass} {id : Nat} {request : HyperRequest}
      (idle : (shared.streams id).phase = .idle) :
      SharedStep shared (id, .arrive request) (shared.set id { phase := .arrived request })
  | signIn {shared : SharedPass} {id : Nat} {request : HyperRequest}
      {app : AppCtx} {user : Option Str}
      (arrived : (shared.streams id).phase = .arrived request)
      (gated : runOauthGateH2 app shared.pass.endpointInfo request = .ret .proceed)
      (passed : shared.pass.handleAuthWithGAuth app request.parts = .ret (.passed user)) :
      SharedStep shared (id, .signIn app) (shared.set id { phase := .signedIn user })
  | store {shared : SharedPass} {id : Nat} {user : Option Str}
      (signedIn : (shared.streams id).phase = .signedIn user) :
      SharedStep shared (id, .store) ({ shared with pass := shared.pass.store user }.set id
          { phase := .stored
            proved := provedIdentity shared.certificate user })
  | check {shared : SharedPass} {id : Nat} {lists : AllowedUsersList}
      (stored : (shared.streams id).phase = .stored) :
      SharedStep shared (id, .check lists) (shared.set id
          { shared.streams id with
            phase := if shared.pass.userAllowed lists then .admitted else .left
            loaded := (shared.streams id).loaded ++
              if shared.pass.endpointInfo.allowedUserListId.isSome then
                [shared.pass.identity]
              else []
            decision := some (lists, shared.pass.userAllowed lists) })
  | load {shared : SharedPass} {id : Nat} (admitted : (shared.streams id).phase = .admitted) :
      SharedStep shared (id, .load) (shared.set id
          { shared.streams id with
            loaded := (shared.streams id).loaded ++ [shared.pass.identity] })
  | leave {shared : SharedPass} {id : Nat} :
      SharedStep shared (id, .leave) (shared.set id { shared.streams id with phase := .left })

/-! ## One stream alone -/

omit [StrUtils] in
theorem SharedPass.set_set (shared : SharedPass) (id : Nat) (first second : Stream) :
    (shared.set id first).set id second = shared.set id second := by
  simp [set]

variable {shared : SharedPass} {id : Nat}

/-- `send_payload` as it is given for one request is what the steps of one
stream come to when no other stream steps in between. -/
theorem sendPayload_alone {next : HttpProxyPass} {app : AppCtx} {clientIp : Option IpAddr}
    {request : HyperRequest} {location : ProxyPassLocationConfig}
    {identity : Option HttpProxyPassIdentity} (idle : (shared.streams id).phase = .idle)
    (sent : shared.pass.sendPayload app clientIp request =
      .ret (next, .dispatched location identity)) :
    ∃ final, Run SharedStep (fun _ label => label.1 = id) shared final ∧
      final.pass = next ∧ (final.streams id).phase = .admitted ∧
      identity = final.pass.identity := by
  obtain ⟨gated, user, passed, rfl, allowed, _, dispatched⟩ :=
    sendPayload_dispatched_iff.mp sent
  obtain ⟨_, _, rfl, _⟩ := dispatch_dispatched_iff.mp dispatched
  let waiting := shared.set id { phase := .arrived request }
  let signed := waiting.set id { phase := .signedIn user }
  let stored := { signed with pass := signed.pass.store user }.set id
    { phase := .stored
      proved := provedIdentity signed.certificate user }
  have arrives : SharedStep shared (id, .arrive request) waiting := .arrive idle
  have signsIn : SharedStep waiting (id, .signIn app) signed :=
    .signIn (by simp [waiting]) gated passed
  have stores : SharedStep signed (id, .store) stored := .store (by simp [signed])
  have checks : SharedStep stored (id, .check app.allowedUsersList) _ := .check (by simp [stored])
  refine ⟨_, .step (.step (.step (.step (.start shared) rfl arrives) rfl
    signsIn) rfl stores) rfl checks, rfl, ?_, rfl⟩
  rw [SharedPass.set_streams_self]
  exact if_pos allowed

/-! ## Every request acts on its own identity -/

/-- What a request has loaded is what it proved, and its decision is the one
for that identity. -/
structure OwnIdentity (info : HttpEndpointInfo) (stream : Stream) : Prop where
  loads : ∀ identity ∈ stream.loaded, identity = stream.proved
  decides : ∀ lists allowed, stream.decision = some (lists, allowed) →
    allowed = info.userIsAllowed lists stream.proved

/-- A user is stored only while every other request between its store and its
last load has proved to be the same user. -/
def StoresAlone (shared : SharedPass) : Nat × StreamAction → Prop
  | (id, .store) => ∀ user, (shared.streams id).phase = .signedIn (some user) →
      ∀ other, other ≠ id → (shared.streams other).inFlight →
        (shared.streams other).proved = some (.googleUser user)
  | _ => True

/-- The slot holds what each request in flight has proved. -/
structure SlotOwned (shared : SharedPass) : Prop where
  own : ∀ id, OwnIdentity shared.pass.endpointInfo (shared.streams id)
  slot : ∀ id, (shared.streams id).inFlight → (shared.streams id).proved = shared.pass.identity
  untouched : shared.pass.endpointInfo.gAuth = none → shared.pass.identity = shared.certificate
  users : ∀ id user, (shared.streams id).phase = .signedIn user →
    (user = none ↔ shared.pass.endpointInfo.gAuth = none)

omit [StrUtils] in
theorem SlotOwned.fresh (info : HttpEndpointInfo) (listenHost : Str)
    (clientCert : Option ClientCertificateData) :
    SlotOwned (.fresh info listenHost clientCert) where
  own _ := ⟨by simp [SharedPass.fresh], by simp [SharedPass.fresh]⟩
  slot _ flying := by
    rcases flying with stored | admitted
    · cases stored
    · cases admitted
  untouched _ := rfl
  users _ _ signedIn := by
    cases signedIn

omit [StrUtils] in
/-- A step that leaves the pass alone has to be looked at for its own stream
only. -/
theorem SlotOwned.set {stream : Stream} (owned : SlotOwned shared)
    (own : OwnIdentity shared.pass.endpointInfo stream)
    (slot : stream.inFlight → stream.proved = shared.pass.identity)
    (users : ∀ user, stream.phase = .signedIn user →
      (user = none ↔ shared.pass.endpointInfo.gAuth = none)) :
    SlotOwned (shared.set id stream) := by
  have each : ∀ other, (shared.set id stream).streams other = stream ∨
      (shared.set id stream).streams other = shared.streams other := by
    intro other
    by_cases same : other = id
    · subst same
      exact Or.inl (shared.set_streams_self other stream)
    · exact Or.inr (shared.set_streams_of_ne stream same)
  refine ⟨?_, ?_, owned.untouched, ?_⟩
  · intro other
    rcases each other with mine | theirs
    · rw [mine]
      exact own
    · rw [theirs]
      exact owned.own other
  · intro other
    rcases each other with mine | theirs
    · rw [mine]
      exact slot
    · rw [theirs]
      exact owned.slot other
  · intro other
    rcases each other with mine | theirs
    · rw [mine]
      exact users
    · rw [theirs]
      exact owned.users other

/-- A request passes without a user exactly at an endpoint without a Google
sign-in. -/
theorem handleAuthWithGAuth_user {pass : HttpProxyPass} {app : AppCtx}
    {parts : Parts} {user : Option Str}
    (passed : pass.handleAuthWithGAuth app parts = .ret (.passed user)) :
    user = none ↔ pass.endpointInfo.gAuth = none := by
  unfold handleAuthWithGAuth at passed
  cases settings : pass.endpointInfo.gAuth with
  | none =>
    simp only [settings] at passed
    cases passed
    simp
  | some settings =>
    simp only [settings, Outcome.bind_eq_ret_iff] at passed
    obtain ⟨result, _, continued⟩ := passed
    split at continued
    · cases continued
      simp
    · cases continued
    · cases continued

omit [StrUtils] in
theorem SlotOwned.store {user : Option Str} (owned : SlotOwned shared)
    (signedIn : (shared.streams id).phase = .signedIn user)
    (alone : StoresAlone shared (id, .store)) :
    SlotOwned { shared with pass := shared.pass.store user } ∧
      provedIdentity shared.certificate user = (shared.pass.store user).identity := by
  cases user with
  | none =>
    have noSignIn := (owned.users id none signedIn).mp rfl
    exact ⟨owned, (owned.untouched noSignIn).symm⟩
  | some email =>
    refine ⟨⟨owned.own, ?_, ?_, owned.users⟩, rfl⟩
    · intro other flying
      refine alone email signedIn other ?_ flying
      rintro rfl
      rcases flying with stored | admitted
      · cases signedIn.symm.trans stored
      · cases signedIn.symm.trans admitted
    · intro noSignIn
      cases (owned.users id _ signedIn).mpr noSignIn

omit [StrUtils] in
theorem OwnIdentity.append {info : HttpEndpointInfo} {stream : Stream}
    {more : List (Option HttpProxyPassIdentity)}
    (own : OwnIdentity info stream)
    (mine : ∀ identity ∈ more, identity = stream.proved) :
    ∀ identity ∈ stream.loaded ++ more, identity = stream.proved := by
  intro identity present
  rcases List.mem_append.mp present with before | now
  · exact own.loads identity before
  · exact mine identity now

theorem SharedStep.slotOwned {before after : SharedPass}
    {label : Nat × StreamAction} (owned : SlotOwned before)
    (alone : StoresAlone before label)
    (stepped : SharedStep before label after) : SlotOwned after := by
  have arriving : ∀ phase : StreamPhase, OwnIdentity before.pass.endpointInfo { phase } := by
    intro phase
    exact ⟨by simp, by simp⟩
  cases stepped with
  | arrive idle =>
    refine owned.set (arriving _) ?_ ?_
    · rintro (stored | admitted)
      · cases stored
      · cases admitted
    · intro user signedIn
      cases signedIn
  | signIn arrived gated passed =>
    refine owned.set (arriving _) ?_ ?_
    · rintro (stored | admitted)
      · cases stored
      · cases admitted
    · intro user signedIn
      cases signedIn
      exact handleAuthWithGAuth_user passed
  | store signedIn =>
    obtain ⟨kept, mine⟩ := owned.store signedIn alone
    refine kept.set ⟨by simp, by simp⟩ (fun _ => mine) ?_
    intro user signedIn
    cases signedIn
  | @check id lists stored =>
    have mine := owned.slot id (Or.inl stored)
    refine owned.set ⟨?_, ?_⟩ (fun _ => mine) ?_
    · apply (owned.own id).append
      intro identity present
      split at present
      · rw [mine]
        exact List.mem_singleton.mp present
      · cases present
    · intro lists allowed decided
      cases decided
      rw [userAllowed_eq, mine]
    · intro user signedIn
      simp only at signedIn
      split at signedIn
      · cases signedIn
      · cases signedIn
  | @load id admitted =>
    have mine := owned.slot id (Or.inr admitted)
    refine owned.set ⟨?_, (owned.own id).decides⟩ (fun _ => mine) ?_
    · apply (owned.own id).append
      intro identity present
      rw [mine]
      exact List.mem_singleton.mp present
    · intro user signedIn
      cases admitted.symm.trans signedIn
  | @leave id =>
    refine owned.set ⟨(owned.own id).loads, (owned.own id).decides⟩ ?_ ?_
    · rintro (stored | admitted)
      · cases stored
      · cases admitted
    · intro user signedIn
      cases signedIn

/-- In every interleaving in which users are stored alone, each request acts
on the identity it has proved itself. -/
theorem streams_act_on_own_identity {info : HttpEndpointInfo}
    {listenHost : Str} {clientCert : Option ClientCertificateData}
    {shared : SharedPass}
    (run : Run SharedStep StoresAlone
      (.fresh info listenHost clientCert) shared) (id : Nat) :
    OwnIdentity shared.pass.endpointInfo (shared.streams id) := by
  have owned : SlotOwned shared := run.invariant (.fresh info listenHost clientCert)
      fun owned alone stepped => stepped.slotOwned owned alone
  exact owned.own id

end

/-! ## Two users on one connection -/

section

attribute [local instance] asciiCase

def signInSettings : Str := "google".toList

def signInEndpoint : HttpEndpointInfo :=
  { hostEndpoint := { src := "443".toList, port := some 443, index := none }
    listenEndpointType := .https2
    gAuth := some signInSettings
    allowedUserListId := some "admins".toList }

/-- Every token is the email of its user. -/
def signInApp : AppCtx :=
  { allowedUsersList := [("admins".toList, ["ann@x".toList])]
    googleAuthCredentials := [(signInSettings,
      { clientId := []
        clientSecret := []
        whitelistedDomains := ['*'] })]
    resolveToken := some }

/-- A request with the cookie of a user. -/
def signedRequest (user : String) : HyperRequest :=
  { parts :=
      { method := "GET".toList
        path := ['/']
        headers := [("cookie".toList, ascii ("x-authorized=" ++ user))] } }

def signInPass : SharedPass := .fresh signInEndpoint [] none

theorem ann_resolved :
    signInApp.handleGoogleAuth (signedRequest "ann@x").parts.request
      signInSettings = .ret (.ok (.passed "ann@x".toList)) := by
  rfl

theorem bob_resolved :
    signInApp.handleGoogleAuth (signedRequest "bob@x").parts.request
      signInSettings = .ret (.ok (.passed "bob@x".toList)) := by
  rfl

/-- The state after a user has stored its identity from stream `id`. -/
def afterStore (shared : SharedPass) (id : Nat) (user : String) : SharedPass :=
  { shared with pass := shared.pass.store (some user.toList) }.set id
    { phase := .stored
      proved := some (.googleUser user.toList) }

theorem user_stores {user : String} {Meets : SharedPass → Nat × StreamAction → Prop}
    {first shared : SharedPass} (id : Nat)
    (resolved : signInApp.handleGoogleAuth (signedRequest user).parts.request
      signInSettings = .ret (.ok (.passed user.toList)))
    (run : Run SharedStep Meets first shared)
    (here : shared.pass.endpointInfo = signInEndpoint)
    (idle : (shared.streams id).phase = .idle)
    (arrives : Meets shared (id, .arrive (signedRequest user)))
    (signsIn : Meets (shared.set id { phase := .arrived (signedRequest user) })
      (id, .signIn signInApp))
    (stores : Meets (shared.set id { phase := .signedIn (some user.toList) }) (id, .store)) :
    Run SharedStep Meets first (afterStore shared id user) := by
  have passed : shared.pass.handleAuthWithGAuth signInApp
      (signedRequest user).parts = .ret (.passed (some user.toList)) := by
    simp [handleAuthWithGAuth, here, signInEndpoint, resolved]
  have gated : runOauthGateH2 signInApp shared.pass.endpointInfo
      (signedRequest user) = .ret .proceed := by
    rw [here]
    rfl
  have signed := (run.step arrives (.arrive idle)).step signsIn (.signIn (by simp) gated passed)
  rw [SharedPass.set_set] at signed
  have phase : ((shared.set id { phase := .signedIn (some user.toList) }).streams id).phase =
        .signedIn (some user.toList) := by
    simp
  have stored := signed.step stores (.store phase)
  have same : { shared.set id { phase := .signedIn (some user.toList) } with
      pass := shared.pass.store (some user.toList) }.set id
        { phase := .stored
          proved := some (.googleUser user.toList) } =
      afterStore shared id user := by
    simp [afterStore, SharedPass.set]
  rw [← same]
  exact stored

/-- Two requests of one user, the second stored before the first is checked. -/
theorem streams_act_on_own_identity_ann :
    ∃ shared, Run SharedStep StoresAlone signInPass shared ∧
      (shared.streams 0).decision = some (signInApp.allowedUsersList, true) ∧
        OwnIdentity shared.pass.endpointInfo (shared.streams 0) := by
  have firstAlone : StoresAlone (signInPass.set 0 { phase := .signedIn (some "ann@x".toList) })
      (0, .store) := by
    intro user _ other different flying
    rw [SharedPass.set_streams_of_ne _ _ different] at flying
    rcases flying with stored | admitted
    · cases stored
    · cases admitted
  have firstStored := user_stores 0 ann_resolved (.start signInPass) rfl rfl
    trivial trivial firstAlone
  have secondAlone : StoresAlone ((afterStore signInPass 0 "ann@x").set 1
        { phase := .signedIn (some "ann@x".toList) })
      (1, .store) := by
    intro user signedIn other different flying
    rw [SharedPass.set_streams_self] at signedIn
    cases signedIn
    rw [SharedPass.set_streams_of_ne _ _ different] at flying ⊢
    by_cases first : other = 0
    · cases first
      rfl
    rw [afterStore, SharedPass.set_streams_of_ne _ _ first] at flying
    rcases flying with stored | admitted
    · cases stored
    · cases admitted
  have stored := user_stores 1 ann_resolved firstStored rfl rfl trivial trivial secondAlone
  have checkStep : SharedStep (afterStore (afterStore signInPass 0 "ann@x") 1 "ann@x")
      (0, .check signInApp.allowedUsersList) _ :=
    .check rfl
  have checked := stored.step (by trivial) checkStep
  exact ⟨_, checked, by decide +kernel, streams_act_on_own_identity checked 0⟩

/-- The first user is let in as the second. -/
theorem stored_identity_leaks :
    ∃ shared, Run SharedStep (fun _ _ => True) signInPass shared ∧
      ¬ OwnIdentity shared.pass.endpointInfo (shared.streams 0) := by
  have begun : Run SharedStep (fun _ _ => True) signInPass signInPass := .start signInPass
  have stored := user_stores 1 ann_resolved
    (user_stores 0 bob_resolved begun rfl rfl trivial trivial trivial)
    rfl rfl trivial trivial trivial
  have checked := stored.step trivial
    (.check rfl : SharedStep _ (0, .check signInApp.allowedUsersList) _)
  refine ⟨_, checked, ?_⟩
  intro own
  have decided := own.decides signInApp.allowedUsersList true (by decide +kernel)
  revert decided
  decide +kernel

end

end ReverseProxy

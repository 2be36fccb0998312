import Mathlib.Logic.Function.Basic
import ReverseProxy.Library.Runs
import ReverseProxy.Rust.Utf8

/-!
# Certificates synchronised through gateways

A client keeps certificates that gateways push next to those it loads itself.
A not-found answer looks the certificate up in one step and removes whatever is
cached under its id in a later one.
-/

namespace ReverseProxy

open Library Function

inductive SslCertificateOrigin where
  | localSource
  | gatewayPushed (gatewayId : Str)
  | manuallyProvided
deriving DecidableEq, Repr

def SslCertificateOrigin.isGatewayPushed : SslCertificateOrigin → Bool
  | gatewayPushed _ => true
  | _ => false

structure SslCertificateHolder where
  origin : SslCertificateOrigin
  certPem : Bytes
  privateKeyPem : Bytes
deriving DecidableEq, Repr

/-- The cache by certificate id, and the handlers of not-found answers between
their look into the cache and the removal, by gateway and certificate. -/
structure CertificateSync where
  sslCerts : Str → Option SslCertificateHolder := fun _ => none
  removing : List (Str × Str) := []

namespace CertificateSync

/-- `add_or_update`. -/
def addOrUpdate (sync : CertificateSync) (certId : Str)
    (holder : SslCertificateHolder) : CertificateSync :=
  { sync with
    sslCerts := update sync.sslCerts certId (some holder) }

/-- `remove`, by the handler of a not-found answer. -/
def remove (sync : CertificateSync) (gatewayId certId : Str) :
    CertificateSync :=
  { sslCerts := update sync.sslCerts certId none
    removing := sync.removing.erase (gatewayId, certId) }

theorem addOrUpdate_sslCerts (sync : CertificateSync) (certId other : Str)
    (holder : SslCertificateHolder) :
    (sync.addOrUpdate certId holder).sslCerts other =
      if other = certId then some holder else sync.sslCerts other :=
  update_apply ..

theorem remove_sslCerts (sync : CertificateSync) (gatewayId certId other : Str) :
    (sync.remove gatewayId certId).sslCerts other =
      if other = certId then none else sync.sslCerts other :=
  update_apply ..

inductive Event where
  | pushed (gatewayId certId : Str)
  | notFound (gatewayId certId : Str)
  | removed (gatewayId certId : Str)
  /-- A refresh from a local source, or an upload. -/
  | written (certId : Str)

inductive Step : CertificateSync → Event → CertificateSync → Prop where
  | pushed (sync : CertificateSync) (gatewayId certId : Str) (certPem privateKeyPem : Bytes) :
      Step sync (.pushed gatewayId certId) (sync.addOrUpdate certId
          { origin := .gatewayPushed gatewayId, certPem, privateKeyPem })
  | pushUnparsed (sync : CertificateSync) (gatewayId certId : Str) :
      Step sync (.pushed gatewayId certId) sync
  | notFound (sync : CertificateSync) (gatewayId certId : Str) :
      Step sync (.notFound gatewayId certId)
        (if (sync.sslCerts certId).any (·.origin.isGatewayPushed) then
          { sync with removing := (gatewayId, certId) :: sync.removing }
        else sync)
  | removed (sync : CertificateSync) {gatewayId certId : Str}
      (checked : (gatewayId, certId) ∈ sync.removing) :
      Step sync (.removed gatewayId certId) (sync.remove gatewayId certId)
  | written (sync : CertificateSync) (certId : Str) (holder : SslCertificateHolder)
      (own : holder.origin.isGatewayPushed = false) :
      Step sync (.written certId) (sync.addOrUpdate certId holder)

/-- Gateways send packets about the certificates listed for them only, and
nothing is written between the two steps of a not-found answer. -/
def Orderly (lists : Str → List Str) (sync : CertificateSync) : Event → Prop
  | .pushed gatewayId certId => certId ∈ lists gatewayId
  | .notFound gatewayId certId => certId ∈ lists gatewayId
  | .removed _ _ => True
  | .written certId => ∀ gatewayId, (gatewayId, certId) ∉ sync.removing

/-- Pushed certificates and removals concern listed ids, and what is about to
be removed was pushed. -/
structure Sound (lists : Str → List Str) (sync : CertificateSync) : Prop where
  pushed : ∀ certId holder gatewayId, sync.sslCerts certId = some holder →
    holder.origin = .gatewayPushed gatewayId → certId ∈ lists gatewayId
  removing : ∀ gatewayId certId, (gatewayId, certId) ∈ sync.removing →
    certId ∈ lists gatewayId ∧ ∀ holder, sync.sslCerts certId = some holder →
      holder.origin.isGatewayPushed = true

variable {lists : Str → List Str} {sync next : CertificateSync} {event : Event}

theorem Sound.addOrUpdate (sound : sync.Sound lists) {certId : Str} {holder : SslCertificateHolder}
    (listed : ∀ gatewayId, holder.origin = .gatewayPushed gatewayId → certId ∈ lists gatewayId)
    (pushed : ∀ gatewayId, (gatewayId, certId) ∈ sync.removing →
      holder.origin.isGatewayPushed = true) :
    (sync.addOrUpdate certId holder).Sound lists := by
  obtain ⟨_, _⟩ := sound
  constructor <;> grind [addOrUpdate_sslCerts, CertificateSync.addOrUpdate]

theorem Sound.step (sound : sync.Sound lists)
    (orderly : sync.Orderly lists event) (stepped : Step sync event next) :
    next.Sound lists := by
  cases stepped with
  | pushed gatewayId certId certPem privateKeyPem =>
    refine sound.addOrUpdate ?_ (fun _ _ => rfl)
    rintro pusher ⟨⟩
    exact orderly
  | pushUnparsed gatewayId certId => exact sound
  | notFound gatewayId certId =>
    split
    case isTrue found =>
      refine ⟨sound.pushed, fun other number member => ?_⟩
      rcases List.mem_cons.mp member with same | member
      · cases same
        refine ⟨orderly, fun holder cached => ?_⟩
        rwa [cached] at found
      · exact sound.removing other number member
    case isFalse => exact sound
  | removed checked =>
    obtain ⟨_, _⟩ := sound
    constructor <;> grind [remove_sslCerts, remove, List.mem_of_mem_erase]
  | written certId holder own =>
    refine sound.addOrUpdate ?_ (fun gatewayId checked =>
      absurd checked (orderly gatewayId))
    intro pusher pushed
    rw [pushed] at own
    cases own

/-- In every orderly run over ids that are listed for one gateway each, only a
not-found answer removes a certificate, and only one its gateway has pushed; a
push changes the entry of a listed id. -/
theorem removed_by_its_gateway (apart : ∀ gatewayId other certId, certId ∈ lists gatewayId →
      certId ∈ lists other → gatewayId = other)
    (run : Run Step (Orderly lists) {} sync)
    (orderly : sync.Orderly lists event) (stepped : Step sync event next) :
    (∀ certId holder, sync.sslCerts certId = some holder →
      next.sslCerts certId = none → ∃ gatewayId,
        event = .removed gatewayId certId ∧ holder.origin = .gatewayPushed gatewayId) ∧
      ∀ gatewayId certId, event = .pushed gatewayId certId →
        certId ∈ lists gatewayId ∧ ∀ other, other ≠ certId →
          next.sslCerts other = sync.sslCerts other := by
  have sound : sync.Sound lists := by
    refine run.invariant ?_ fun sound orderly stepped =>
      sound.step orderly stepped
    constructor <;> simp
  constructor
  · intro certId holder cached gone
    cases stepped with
    | removed checked =>
      rename_i gatewayId removedId
      by_cases same : certId = removedId
      · subst same
        obtain ⟨listed, pushed⟩ := sound.removing gatewayId certId checked
        cases origin : holder.origin with
        | gatewayPushed pusher =>
          have pusherLists := sound.pushed certId holder pusher cached origin
          cases apart gatewayId pusher certId listed pusherLists
          exact ⟨gatewayId, rfl, rfl⟩
        | _ => cases origin ▸ pushed holder cached
      · rw [remove_sslCerts, if_neg same, cached] at gone
        cases gone
    | _ => grind [addOrUpdate_sslCerts]
  · rintro gatewayId certId rfl
    refine ⟨orderly, fun other different => ?_⟩
    cases stepped with
    | pushed => exact update_of_ne different _ _
    | pushUnparsed => rfl

/-- A gateway has pushed a certificate and does not find it any more. -/
private def asked : CertificateSync :=
  { ({} : CertificateSync).addOrUpdate ['c'] ⟨.gatewayPushed [], [], []⟩ with
    removing := [([], ['c'])] }

private theorem run_asked (listed : ['c'] ∈ lists []) : Run Step (Orderly lists) {} asked := by
  have pushed : Run Step (Orderly lists) {} _ :=
    .step (.start _) (by exact listed) (.pushed _ [] ['c'] [] [])
  exact .step pushed (by exact listed) (.notFound _ [] ['c'])

theorem removed_by_its_gateway_pushed :
    let lists : Str → List Str := fun gatewayId =>
      if gatewayId = [] then [['c']] else []
    Run Step (Orderly lists) {} asked ∧ Step asked (.removed [] ['c']) (asked.remove [] ['c']) ∧
      ∃ gatewayId, Event.removed [] ['c'] = .removed gatewayId ['c'] ∧
        SslCertificateOrigin.gatewayPushed [] = .gatewayPushed gatewayId := by
  intro lists
  have run : Run Step (Orderly lists) {} asked := run_asked (List.mem_singleton_self _)
  have removed : Step asked (.removed [] ['c']) _ := .removed _ (by decide)
  exact ⟨run, removed, (removed_by_its_gateway (by grind) run (by trivial)
    removed).1 ['c'] _ rfl rfl⟩

/-- A certificate that is uploaded while a not-found answer is handled is
removed. -/
theorem uploaded_certificate_removed :
    ∃ sync next, Run Step (fun _ _ => True) {} sync ∧ Step sync (.removed [] ['c']) next ∧
      sync.sslCerts ['c'] = some
        { origin := .manuallyProvided, certPem := [], privateKeyPem := [] } ∧
      next.sslCerts ['c'] = none := by
  have run : Run Step (Orderly fun _ => [['c']]) {} asked := run_asked (List.mem_singleton_self _)
  have uploaded : Run Step (fun _ _ => True) {} _ := .step (run.mono fun _ => trivial) trivial
    (.written _ ['c'] ⟨.manuallyProvided, [], []⟩ rfl)
  exact ⟨_, _, uploaded, .removed _ (by decide), rfl, rfl⟩

end CertificateSync

end ReverseProxy

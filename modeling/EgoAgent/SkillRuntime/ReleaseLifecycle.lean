import EgoAgent.Lib.KeySort
import EgoAgent.SkillRuntime.Registry

/-!
The lifecycle of skill releases over whole runs of the registry.
-/

namespace EgoAgent.SkillRuntime

open EgoAgent.Api EgoAgent.Effect

variable (sha256 : Bytes → Digest)

/-! ### What every operation keeps -/

/-- Every release has one descriptor, filed under its own key, and one state. -/
structure SkillRegistry.WellFormed (registry : SkillRegistry) : Prop where
  distinct : registry.descriptors.keys.Nodup
  named : ∀ key descriptor, registry.descriptors.get? key = some descriptor → descriptor.key = key
  stated : registry.states.keys = registry.descriptors.keys

def SkillRegistry.AtMostOneActive (registry : SkillRegistry) : Prop :=
  ∀ left right : ReleaseKey, left.1 = right.1 → registry.states.get? left = some .active →
    registry.states.get? right = some .active → left = right

section WellFormed

variable {registry : SkillRegistry}

variable {key : ReleaseKey}

theorem SkillRegistry.WellFormed.descriptor (wellFormed : registry.WellFormed)
    (known : key ∈ registry.descriptors.keys) :
    ∃ descriptor, registry.descriptors.get? key = some descriptor ∧ descriptor.key = key := by
  obtain ⟨descriptor, found⟩ := (Dict.mem_keys_iff _ _).mp known
  exact ⟨descriptor, found, wellFormed.named key descriptor found⟩

theorem SkillRegistry.WellFormed.state (wellFormed : registry.WellFormed)
    (known : key ∈ registry.descriptors.keys) :
    ∃ state, registry.states.get? key = some state := by
  rw [← wellFormed.stated] at known
  exact (Dict.mem_keys_iff _ _).mp known

theorem SkillRegistry.WellFormed.setState (wellFormed : registry.WellFormed)
    (known : key ∈ registry.descriptors.keys) (state : SkillReleaseState) :
    (registry.setState key state).WellFormed where
  distinct := wellFormed.distinct
  named := wellFormed.named
  stated :=
    (Dict.keys_set_of_mem _ _ (wellFormed.stated.symm ▸ known)).trans wellFormed.stated

theorem mem_releases {name : String} {state : SkillReleaseState} :
    key ∈ registry.releases name state ↔
      key ∈ registry.descriptors.keys ∧ key.1 = name ∧ registry.states.get? key = some state := by
  unfold SkillRegistry.releases SkillRegistry.keysFor
  rw [List.mem_filter, List.mem_filter, decide_eq_true_iff, decide_eq_true_iff, and_assoc]

theorem SkillRegistry.AtMostOneActive.length_le (wellFormed : registry.WellFormed)
    (unique : registry.AtMostOneActive) (name : String) :
    (registry.releases name .active).length ≤ 1 := by
  have distinct : (registry.releases name .active).Nodup :=
    (wellFormed.distinct.filter _).filter _
  match listed : registry.releases name .active with
  | [] => exact Nat.zero_le _
  | [_] => exact Nat.le_refl _
  | first :: second :: rest =>
      have ofFirst := mem_releases.mp (listed ▸ List.mem_cons_self : first ∈ _)
      have ofSecond :=
        mem_releases.mp (listed ▸ List.mem_cons_of_mem _ List.mem_cons_self : second ∈ _)
      have same := unique first second (ofFirst.2.1.trans ofSecond.2.1.symm) ofFirst.2.2
        ofSecond.2.2
      rw [listed, same, List.nodup_cons] at distinct
      exact absurd List.mem_cons_self distinct.1

end WellFormed

/-! ### The updates of the state -/

section Updates

variable {registry : SkillRegistry} (key : ReleaseKey)

variable {key}

/-- A release that is set to another state than active takes no one's place. -/
theorem SkillRegistry.AtMostOneActive.setState (unique : registry.AtMostOneActive)
    (key : ReleaseKey) {state : SkillReleaseState} (inactive : state ≠ .active) :
    (registry.setState key state).AtMostOneActive := by
  have former (wanted : ReleaseKey)
      (active : (registry.setState key state).states.get? wanted = some .active) :
      registry.states.get? wanted = some .active := by
    unfold SkillRegistry.setState at active
    rw [Dict.get?_set] at active
    by_cases same : wanted = key
    · rw [if_pos same] at active
      exact absurd (Option.some.inj active) inactive
    · rwa [if_neg same] at active
  intro left right sameName ofLeft ofRight
  exact unique left right sameName (former left ofLeft) (former right ofRight)

end Updates

/-! ### The operations -/

section Operations

variable {registry : SkillRegistry} {α : Type}

end Operations

/-! ### Routing -/

section Routing

variable {registry : SkillRegistry}

variable {key : ReleaseKey}

variable {name : String}

end Routing

/-! ### Construction -/

/-- What the constructor has filed of the releases that it has read. -/
structure Filed (read : List SkillDescriptor) (registry : SkillRegistry) : Prop where
  wellFormed : registry.WellFormed
  manifest : ∀ key descriptor, registry.descriptors.get? key = some descriptor →
    descriptor ∈ read ∧ registry.states.get? key = some descriptor.manifestState

inductive Operation where
  | setCanary (name version : String) (percent : Int)
  | activate (name version : String)
  | retire (name version : String)
  | rollback (name targetVersion : String)

def Operation.run : Operation → Effect SkillRegistry Failure ReleaseEvent
  | .setCanary name version percent => SkillRuntime.setCanary sha256 name version percent
  | .activate name version => SkillRuntime.activate sha256 name version
  | .retire name version => SkillRuntime.retire sha256 name version
  | .rollback name targetVersion => SkillRuntime.rollback sha256 name targetVersion

/-- A call of a lifecycle operation, or of `resolve`, which only reads. -/
inductive Request where
  | change (operation : Operation)
  | resolve (name correlationId : String)

def Request.after (registry : SkillRegistry) : Request → SkillRegistry
  | .change operation => (operation.run sha256 registry).2
  | .resolve _ _ => registry

def runs (registry : SkillRegistry) (requests : List Request) : SkillRegistry :=
  requests.foldl (Request.after sha256) registry

namespace RegistrySample

def release (version : String) (state : SkillReleaseState) : SkillDescriptor :=
  { name := "search", version := version, packageDigest := "d", manifestState := state }

def registry : SkillRegistry where
  descriptors := [(("search", "1.0.0"), release "1.0.0" .active),
    (("search", "1.1.0"), release "1.1.0" .draft)]
  states := [(("search", "1.0.0"), .active), (("search", "1.1.0"), .draft)]
  canaryPercent := []

end RegistrySample

end EgoAgent.SkillRuntime

import NativeBindings.Proofs.CompositionsAlike

/-!
# Native names stay hidden

Renaming native names changes nothing about a generated module. It acts along the structure of types
(`NativeType.rename_actsAlong`), and mentions are lowered as before, by induction over what
declarations hold by value. So a composition and its renaming are alike
(`Composition.alike_rename`) and give the same text (`Composition.renaming_invisible`).
-/
namespace NativeBindings

variable {ρ : String ↪ String}

/-! ## Types -/

theorem NativeType.pointeesAlike_rename (pointee : NativeType) :
    pointee.PointeesAlike ρ (pointee.rename ρ) := by
  cases pointee with
  | untyped => exact .untyped
  | ref name => exact .ref name
  | _ => exact .other (by rintro ⟨⟩) (by rintro _ ⟨⟩) (by rintro ⟨⟩) (by rintro _ ⟨⟩)

theorem NativeType.rename_actsAlong (ρ : String ↪ String) :
    ActsAlong ρ (NativeType.rename ρ) where
  toActsInside := rename_actsInside ρ
  leaf type leaf := by
    cases type with
    | ref | array | pointer | enum | struct => cases leaf
    | _ => rfl
  array _ _ := rfl
  pointer pointee _ := ⟨pointee.rename ρ, rfl, pointee.pointeesAlike_rename⟩

/-! ## Compositions -/

namespace Composition

/-- Whatever is composed is like its renaming. -/
theorem alike_rename {c : Composition} (sound : c.Sound) : c.Alike ρ (c.rename ρ) := by
  have acts := NativeType.rename_actsAlong ρ
  have sound' : (c.rename ρ).Sound := sound_rename_iff.mpr sound
  have alike : c.names.Alike ρ (c.rename ρ).names := ⟨sound.types, sound'.types, rfl, rfl⟩
  have found' {name : String} {d : Declaration} (found : c.types.find? name = some d) :
      (c.rename ρ).types.find? (ρ name) = some (d.rename ρ) := by
    have renamed := c.types.find?_rename ρ name
    rw [found] at renamed
    exact renamed
  have mentions (name : String) (has : c.types.has name = true) :
      LowersAlike ρ c.names (c.rename ρ).names (.ref name) (.ref (ρ name)) := by
    refine sound.types.held_induction name has fun name d found inner => ?_
    exact .mention alike found (found' found) (alike.declaredAlike acts found inner)
  exact .of_actsAlong sound alike acts (fun name d found => ⟨d.rename ρ, found' found, rfl⟩)
    mentions rfl rfl rfl (Roles.get_rename c.client.roles)

/-- Native names never reach the output. However they are replaced by others, as long as different
names stay different, the renamed documents are composed exactly if the documents are, and exactly
the same texts are generated. -/
theorem renaming_invisible (ρ : String ↪ String) (protocol domain : Document) :
    ((∃ c, compose protocol domain = .ok c) ↔
      ∃ c', compose (protocol.rename ρ) (domain.rename ρ) = .ok c') ∧
    ∀ c c', compose protocol domain = .ok c →
      compose (protocol.rename ρ) (domain.rename ρ) = .ok c' →
      ∀ (options : Option Value) (text : String),
        (c.generateText options).runLog.1 = .ok text ↔
          (c'.generateText options).runLog.1 = .ok text := by
  refine ⟨⟨?_, ?_⟩, ?_⟩
  · rintro ⟨c, composed⟩
    exact ⟨c.rename ρ, compose_rename_eq_ok_iff.mpr ⟨c, composed, rfl⟩⟩
  · rintro ⟨c', composed'⟩
    obtain ⟨c, composed, -⟩ := compose_rename_eq_ok_iff.mp composed'
    exact ⟨c, composed⟩
  · intro c c' composed composed' options text
    obtain ⟨origin, composed'', rfl⟩ := compose_rename_eq_ok_iff.mp composed'
    obtain rfl : c = origin := Except.ok.inj (composed.symm.trans composed'')
    have alike : c.Alike ρ (c.rename ρ) := alike_rename (sound_of_compose composed)
    exact (alike.generateText options).eq_ok_iff

/-- A list of records with an identifier each. -/
def linkedRecords : Document :=
  .ofDeclarations
    [⟨"id_t", .int 64 false⟩,
      ⟨"node_t", .struct .cAbi [⟨"id", .ref "id_t", false⟩,
        ⟨"next", .pointer (.ref "node_t") true, true⟩]⟩]
    [("node_t", "Node")]

/-- Every name with a qualifier before it. -/
def qualified : String ↪ String :=
  ⟨fun name => "lib_" ++ name, fun _ _ same => (String.append_right_inj "lib_").mp same⟩

theorem renaming_invisible_linkedRecords : ∃ c c' text,
    compose .bareProtocol linkedRecords = .ok c ∧
      compose (Document.bareProtocol.rename qualified) (linkedRecords.rename qualified) = .ok c' ∧
      c'.client.roles.packet = "lib_packet_t" ∧ (c.generateText none).runLog.1 = .ok text ∧
      (c'.generateText none).runLog.1 = .ok text := by
  refine ⟨_, _, _, rfl, rfl, rfl, rfl, ?_⟩
  exact ((renaming_invisible qualified .bareProtocol linkedRecords).2 _ _ rfl rfl none _).mp rfl

end Composition
end NativeBindings

import JsonPath.Proofs.Typing.Phrase

namespace JsonPath

namespace Phrase

def isNode : Phrase → Bool
  | query _ => true
  | selector (.filter _) => true
  | condition _ => true
  | operand (.call _ _) => true
  | _ => false

def IsChain : List Phrase → Prop := List.IsChain fun x y => y ∈ x.parts

/-- No chain from a phrase down counts more than `depth` levels. -/
def DepthWithin (depth : Nat) (x : Phrase) : Prop :=
  ∀ chain, IsChain (x :: chain) → (x :: chain).countP isNode ≤ depth

theorem countP_cons_isNode (x : Phrase) (chain : List Phrase) :
    (x :: chain).countP isNode = chain.countP isNode + x.isNode.toNat := by
  rw [List.countP_cons]
  cases x.isNode <;> rfl

theorem depthWithin_iff {depth : Nat} {x : Phrase} :
    x.DepthWithin depth ↔
      ∃ below, below + x.isNode.toNat ≤ depth ∧ ∀ y ∈ x.parts, y.DepthWithin below := by
  constructor
  · intro within
    have itself := within [] (.singleton x)
    rw [countP_cons_isNode, List.countP_nil] at itself
    refine ⟨depth - x.isNode.toNat, by omega, fun y part chain parts => ?_⟩
    have longer := within (y :: chain) (.cons_cons part parts)
    rw [countP_cons_isNode] at longer
    omega
  · rintro ⟨below, room, within⟩ chain parts
    rw [countP_cons_isNode]
    cases chain with
    | nil =>
      rw [List.countP_nil]
      omega
    | cons y chain =>
      obtain ⟨part, parts⟩ := List.isChain_cons_cons.mp parts
      have shorter := within y part chain parts
      omega

theorem DepthWithin.mono {depth depth' : Nat} {x : Phrase} (within : x.DepthWithin depth)
    (deeper : depth ≤ depth') : x.DepthWithin depth' :=
  fun chain parts => Nat.le_trans (within chain parts) deeper

theorem DepthWithin.succ {depth : Nat} {x : Phrase} (parts : ∀ y ∈ x.parts, y.DepthWithin depth) :
    x.DepthWithin (depth + 1) :=
  depthWithin_iff.mpr ⟨depth, by cases x.isNode <;> simp, parts⟩

theorem DepthWithin.through {depth : Nat} {x : Phrase} (uncounted : x.isNode = false)
    (parts : ∀ y ∈ x.parts, y.DepthWithin depth) : x.DepthWithin depth :=
  depthWithin_iff.mpr ⟨depth, by rw [uncounted]; exact Nat.le_refl depth, parts⟩

theorem DepthWithin.parts {depth : Nat} {x : Phrase} (within : x.DepthWithin depth) :
    ∀ y ∈ x.parts, y.DepthWithin depth := by
  obtain ⟨below, room, parts⟩ := depthWithin_iff.mp within
  exact fun y part => (parts y part).mono (Nat.le_trans (Nat.le_add_right _ _) room)

theorem DepthWithin.counted {depth : Nat} {x : Phrase} (within : x.DepthWithin depth)
    (node : x.isNode = true) : ∃ below, depth = below + 1 ∧ ∀ y ∈ x.parts, y.DepthWithin below := by
  obtain ⟨below, room, parts⟩ := depthWithin_iff.mp within
  rw [node, Bool.toNat_true] at room
  exact ⟨depth - 1, by omega, fun y part => (parts y part).mono (by omega)⟩

end Phrase

end JsonPath

import JsonPath.Proofs.Grammar.Completeness
import JsonPath.Proofs.Grammar.Productions
import JsonPath.Proofs.Path.Scan
import Mathlib.Data.List.Basic

namespace JsonPath

open Grammar

namespace Step

def selector : Step → Selector
  | member name => .name name
  | index n => .index n

def segment (s : Step) : Segment := .child [s.selector]

theorem segment_injective : Function.Injective segment := by
  intro s s' same
  cases s <;> cases s' <;> simp_all [segment, selector]

theorem reads_inner {s : Step} (safe : s.IsSafe) (offset : Nat) (rest : List Token) :
    Reads .selector (⟨s.innerKind, offset, s.inner⟩ :: rest) s.selector rest := by
  cases s with
  | member name => exact ⟨.nameSelector ⟨⟨.string name, offset, (member name).inner⟩, name, rfl⟩, rfl, by simp [selector]⟩
  | index n =>
    have range : isIndex n := by
      simp only [IsSafe] at safe
      simp only [isIndex, decide_eq_true_eq]
      omega
    exact ⟨.indexSelector ⟨⟨.number (.int n), offset, (index n).inner⟩, n, rfl⟩, rfl, by simp [range, selector]⟩

theorem reads_tokens {s : Step} (safe : s.IsSafe) (offset : Nat) (rest : List Token) :
    Reads .segment (s.tokens offset ++ rest) s.segment rest := by
  have selected := reads_inner safe (offset + 1)
    (⟨.rbracket, offset + 1 + s.inner.length, [']']⟩ :: rest)
  exact .childBracketed (.bracketedSelection (t := ⟨.lbracket, offset, ['[']⟩) rfl
    (.lastSelector selected) rfl)

theorem checkNesting_tokens {limit : Int} (positive : 1 ≤ limit) (s : Step) (offset : Nat)
    (rest : List Token) :
    Query.checkNesting limit 0 (s.tokens offset ++ rest) = Query.checkNesting limit 0 rest := by
  have shallow : ¬ limit < 1 := by omega
  cases s <;> simp [tokens, innerKind, Query.checkNesting, shallow]

end Step

namespace Location

def query (l : Location) : Query := .mk .root (l.map Step.segment)

theorem reads_tokens {l : Location} (safe : ∀ s ∈ l, s.IsSafe) (offset : Nat) :
    ∃ eof : Token, eof.kind = .eof ∧
      Reads .segments (l.tokens offset) (l.map Step.segment) [eof] := by
  induction l generalizing offset with
  | nil => exact ⟨_, rfl, .noSegment⟩
  | cons s l ih =>
    obtain ⟨eof, ends, rest⟩ := ih (fun t member => safe t (by simp [member]))
      (offset + s.inner.length + 2)
    exact ⟨eof, ends, .moreSegments (Step.reads_tokens (safe s (by simp)) offset _) rest⟩

theorem checkNesting_tokens {limit : Int} (positive : 1 ≤ limit) (l : Location) (offset : Nat) :
    Query.checkNesting limit 0 (l.tokens offset) = .ok () := by
  induction l generalizing offset with
  | nil => rfl
  | cons s l ih => rw [tokens, Step.checkNesting_tokens positive, ih]

theorem parse_text {l : Location} (safe : ∀ s ∈ l, s.IsSafe) {limit : Int} (positive : 1 ≤ limit) :
    Query.parse l.text limit = .ok l.query := by
  obtain ⟨eof, ends, steps, tokens, meaning⟩ := reads_tokens safe 1
  have shallow : Query.checkNesting limit 0 (⟨.root, 0, ['$']⟩ :: l.tokens 1) = .ok () :=
    checkNesting_tokens positive l 1
  have whole : (⟨.root, 0, ['$']⟩ : Token) :: l.tokens 1 =
      (Derivation.query (.of (t := ⟨.root, 0, ['$']⟩) rfl) steps).tokens ++ [eof] := by
    rw [tokens]
    rfl
  have read : Query.ofTokens (⟨.root, 0, ['$']⟩ :: l.tokens 1) = .ok l.query := by
    rw [whole]
    exact query_complete (by simp) (by simp [meaning, query]) ends
  simp only [Query.parse, Token.scan_text safe, shallow]
  exact read

theorem query_injective : Function.Injective query := by
  intro l l' same
  have steps : l.map Step.segment = l'.map Step.segment := (Query.mk.inj same).2
  exact List.map_injective_iff.mpr Step.segment_injective steps

/-- The normalized path of a location is parsed as one segment for each step, with nothing but the
step in it, so no other location has the same path. -/
theorem text_readBack {l : Location} (safe : ∀ s ∈ l, s.IsSafe) :
    (∀ limit : Int, 1 ≤ limit → Query.parse l.text limit = .ok (.mk .root (l.map Step.segment))) ∧
      ∀ l' : Location, (∀ s ∈ l', s.IsSafe) → l'.text = l.text → l' = l := by
  refine ⟨fun limit positive => parse_text safe positive, fun l' safe' same => ?_⟩
  have read : Query.parse l.text 1 = .ok l.query := parse_text safe (by decide)
  have read' : Query.parse l'.text 1 = .ok l'.query := parse_text safe' (by decide)
  rw [same, read] at read'
  exact query_injective (Except.ok.inj read').symm

theorem text_readBack_odd :
    let odd : Location :=
      [.member "it's\n\x00\"]['\\", .index (-(2 ^ 53 - 1)), .member "", .member "\x7f😀"]
    (∀ s ∈ odd, s.IsSafe) ∧
      (∀ limit : Int, 1 ≤ limit →
        Query.parse odd.text limit = .ok (.mk .root (odd.map Step.segment))) ∧
      ∀ l' : Location, (∀ s ∈ l', s.IsSafe) → l'.text = odd.text → l' = odd := by
  intro odd
  have safe : ∀ s ∈ odd, s.IsSafe := by simp [odd, Step.IsSafe]
  exact ⟨safe, text_readBack safe⟩

end Location

end JsonPath

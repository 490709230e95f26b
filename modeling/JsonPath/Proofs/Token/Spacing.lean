import JsonPath.Proofs.Token.Tiling

namespace JsonPath

namespace Token

/-- The same tokens with other blanks between them. A gap stays a gap, and where there is none blanks may
come, but not between two kinds of token that are `tight`. -/
inductive Respaced (tight : TokenKind → TokenKind → Prop) : Option TokenKind → List Piece → List Piece → Prop
  | nil {before : Option TokenKind} : Respaced tight before [] []
  | cons {before : Option TokenKind} {gap gap' text : List Char} {kind : TokenKind} {ps ps' : List Piece}
      (blank : ∀ c ∈ gap', c = ' ' ∨ c = '\t' ∨ c = '\n' ∨ c = '\r') (kept : gap ≠ [] → gap' ≠ [])
      (joined : gap = [] → (∃ k ∈ before, tight k kind) → gap' = [])
      (others : Respaced tight (some kind) ps ps') :
      Respaced tight before (⟨gap, kind, text⟩ :: ps) (⟨gap', kind, text⟩ :: ps')

def Dotted (k _ : TokenKind) : Prop := k = .dot ∨ k = .dotdot

namespace Respaced

variable {tight tight' : TokenKind → TokenKind → Prop} {before : Option TokenKind} {ps ps' : List Piece}

theorem map_placed {β : Type} (f : TokenKind → List Char → β) (spaced : Respaced tight before ps ps')
    (offset offset' : Nat) :
    (placed offset' ps').map (fun t => f t.kind t.text) = (placed offset ps).map fun t => f t.kind t.text := by
  induction spaced generalizing offset offset' with
  | nil => rfl
  | cons _ _ _ _ ih => exact congrArg (_ :: ·) (ih _ _)

theorem head? (spaced : Respaced tight before ps ps') :
    Scan.Similar (written ps).head? (written ps').head? := by
  induction spaced with
  | nil => simp [Scan.Similar, written]
  | @cons before gap gap' text kind ps ps' blank kept joined others ih =>
    intro d head
    cases gap' with
    | cons c gap' =>
      obtain rfl : c = d := by simpa [written] using head
      exact .inl (Scan.isBlank_iff.mpr (blank c (by simp)))
    | nil =>
      obtain rfl : gap = [] := by
        by_contra present
        exact kept present rfl
      cases text with
      | cons c text => exact .inr head
      | nil => exact ih d head

open Scan

def dots : Bool → TokenKind
  | false => .dot
  | true => .dotdot

theorem dotted_dots (afterDescent : Bool) (k : TokenKind) : Dotted (dots afterDescent) k := by
  cases afterDescent
  · exact .inl rfl
  · exact .inr rfl

theorem exists_cons {p : Piece} {qs : List Piece} (spaced : Respaced tight before (p :: ps) qs) :
    ∃ gap' ps', qs = ⟨gap', p.kind, p.text⟩ :: ps' ∧ (∀ c ∈ gap', isBlank c) ∧
      (p.gap = [] → (∃ k ∈ before, tight k p.kind) → gap' = []) ∧ Respaced tight (some p.kind) ps ps' := by
  cases spaced with
  | cons blank _ joined others =>
    exact ⟨_, _, rfl, fun c inside => isBlank_iff.mpr (blank c inside), joined, others⟩

theorem exists_behind {afterDescent : Bool} {kind : TokenKind} {text : List Char} {qs : List Piece}
    (spaced : Respaced Dotted (some (dots afterDescent)) (⟨[], kind, text⟩ :: ps) qs) :
    ∃ ps', qs = ⟨[], kind, text⟩ :: ps' ∧ Respaced Dotted (some kind) ps ps' := by
  obtain ⟨gap', ps', rfl, -, joined, others⟩ := spaced.exists_cons
  obtain rfl : gap' = [] := joined rfl ⟨_, rfl, dotted_dots afterDescent kind⟩
  exact ⟨ps', rfl, others⟩

theorem laid {mode : Option Bool} (spaced : Respaced Dotted before ps ps') (laid : Laid mode ps)
    (behind : ∀ d ∈ mode, before = some (dots d)) : Laid mode ps' := by
  induction laid generalizing before ps' with
  | ending =>
    obtain ⟨gap', qs, rfl, blank, -, others⟩ := spaced.exists_cons
    cases others
    exact .ending blank
  | token _ reads _ ih =>
    obtain ⟨gap', qs, rfl, blank, -, others⟩ := spaced.exists_cons
    exact .token blank (reads.similar others.head?) (ih others (by simp))
  | dot _ _ ih =>
    obtain ⟨gap', qs, rfl, blank, -, others⟩ := spaced.exists_cons
    exact .dot blank (ih others (by simp [dots]))
  | dotdot _ _ ih =>
    obtain ⟨gap', qs, rfl, blank, -, others⟩ := spaced.exists_cons
    exact .dotdot blank (ih others (by simp [dots]))
  | @wildcard afterDescent _ _ ih =>
    obtain rfl := behind _ rfl
    obtain ⟨qs, rfl, others⟩ := spaced.exists_behind
    exact .wildcard (ih others (by simp))
  | @name afterDescent c tail ps first inside ends _ ih =>
    obtain rfl := behind _ rfl
    obtain ⟨qs, rfl, others⟩ := spaced.exists_behind
    exact .name first inside (others.head?.notNameChar ends) (ih others (by simp))
  | bracket _ ih =>
    obtain rfl := behind _ rfl
    obtain ⟨qs, rfl, others⟩ := spaced.exists_behind
    exact .bracket (ih spaced (by simp))

end Respaced

def Parts (ps : List Piece) (text : List Char) (ts : List Token) : Prop := written ps = text ∧ placed 0 ps = ts

theorem pieces_unique {offset : Nat} {ps qs : List Piece} (text : written ps = written qs)
    (tokens : placed offset ps = placed offset qs) : ps = qs := by
  induction ps generalizing offset qs with
  | nil =>
    cases qs with
    | nil => rfl
    | cons q qs => simp [placed] at tokens
  | cons p ps ih =>
    obtain ⟨gap, kind, body⟩ := p
    cases qs with
    | nil => simp [placed] at tokens
    | cons q qs =>
      obtain ⟨gap', kind', body'⟩ := q
      obtain ⟨first, others⟩ := List.cons.inj tokens
      obtain ⟨rfl, place, rfl⟩ := Token.mk.inj first
      obtain ⟨rfl, after⟩ := List.append_inj text (Nat.add_left_cancel place)
      rw [ih (List.append_cancel_left after) others]

/-- Blanks that do not come behind a dot or two leave every token as it is. -/
theorem scan_respaced {text : List Char} {ts : List Token} (scanned : scan text = .ok ts)
    {ps ps' : List Piece} (parts : Parts ps text ts) (spaced : Respaced Dotted none ps ps') :
    scan (written ps') = .ok (placed 0 ps') := by
  obtain ⟨rfl, rfl⟩ := parts
  obtain ⟨qs, laid, whole, tokens⟩ := scan_eq_ok_iff_hasLayout.mp scanned
  obtain rfl := pieces_unique whole tokens
  exact scan_eq_ok_iff_hasLayout.mpr ⟨ps', spaced.laid laid (by simp), rfl, rfl⟩

end Token

end JsonPath

import JsonPath.Proofs.Token.Layout

namespace JsonPath

namespace Token

variable {offset : Nat} {ps : List Piece}

theorem offset_le_of_mem_placed {t : Token} (member : t ∈ placed offset ps) : offset ≤ t.offset := by
  induction ps generalizing offset with
  | nil => simp [placed] at member
  | cons p ps ih =>
    rcases List.mem_cons.mp member with rfl | later
    · simp
    · have bound := ih later
      omega

theorem placed_disjoint (offset : Nat) (ps : List Piece) :
    (placed offset ps).Pairwise fun t u => t.stop ≤ u.offset := by
  induction ps generalizing offset with
  | nil => exact .nil
  | cons p ps ih => exact List.pairwise_cons.mpr ⟨fun u later => offset_le_of_mem_placed later, ih _⟩

theorem placed_slice {t : Token} (member : t ∈ placed offset ps) :
    ∃ before after, written ps = before ++ t.text ++ after ∧ t.offset = offset + before.length := by
  induction ps generalizing offset with
  | nil => simp [placed] at member
  | cons p ps ih =>
    rcases List.mem_cons.mp member with rfl | later
    · exact ⟨p.gap, written ps, by simp [written], rfl⟩
    · obtain ⟨before, after, split, place⟩ := ih later
      refine ⟨p.gap ++ p.text ++ before, after, by simp [written, split], ?_⟩
      simp only [List.length_append, place]
      omega

theorem mem_gap_of_outside {i : Nat} {c : Char} (at_i : (written ps)[i]? = some c)
    (outside : ∀ t ∈ placed offset ps, ¬ (t.offset ≤ offset + i ∧ offset + i < t.stop)) :
    ∃ p ∈ ps, c ∈ p.gap := by
  induction ps generalizing offset i with
  | nil => simp [written] at at_i
  | cons p ps ih =>
    rw [written, ← List.append_assoc] at at_i
    obtain ⟨notFirst, notLater⟩ := List.forall_mem_cons.mp outside
    rcases Nat.lt_or_ge i p.gap.length with inGap | behindGap
    · rw [List.append_assoc, List.getElem?_append_left inGap] at at_i
      exact ⟨p, by simp, List.mem_of_getElem? at_i⟩
    · have behindText : (p.gap ++ p.text).length ≤ i := by
        simp only [stop, List.length_append] at notFirst ⊢
        omega
      rw [List.getElem?_append_right behindText] at at_i
      have moved : offset + p.gap.length + p.text.length + (i - (p.gap ++ p.text).length) = offset + i := by
        simp only [List.length_append] at behindText ⊢
        omega
      rw [← moved] at notLater
      obtain ⟨q, member, inside⟩ := ih at_i notLater
      exact ⟨q, by simp [member], inside⟩

namespace Scan

theorem Reads.number_of_isApart {kind : TokenKind} {text : List Char} {next : Option Char}
    (reads : Reads kind text next) (apart : isApart kind) : ∃ v, kind = .number v := by
  obtain ⟨c, tail, rest, -, -, -, run⟩ := reads.exists_run
  exact (lexeme_apart run apart).1

theorem Laid.blank {mode : Option Bool} (laid : Laid mode ps) : ∀ p ∈ ps, ∀ c ∈ p.gap, isBlank c := by
  induction laid with
  | ending blank => simpa using blank
  | token blank _ _ ih | dot blank _ ih | dotdot blank _ ih => exact List.forall_mem_cons.mpr ⟨blank, ih⟩
  | wildcard _ ih | name _ _ _ _ ih => exact List.forall_mem_cons.mpr ⟨by simp, ih⟩
  | bracket _ ih => exact ih

theorem Laid.text_ne_nil {mode : Option Bool} (laid : Laid mode ps) :
    ∀ p ∈ ps, p.kind ≠ .eof → p.text ≠ [] := by
  induction laid with
  | ending blank => simp
  | token blank reads _ ih =>
    obtain ⟨c, tail, rfl, -⟩ := reads
    exact List.forall_mem_cons.mpr ⟨by simp, ih⟩
  | dot _ _ ih | dotdot _ _ ih | wildcard _ ih | name _ _ _ _ ih =>
    exact List.forall_mem_cons.mpr ⟨by simp, ih⟩
  | bracket _ ih => exact ih

/-- What stands right behind a dot, or two, is a name, a wildcard, or a bracket behind two. -/
def Attached (ts : List Token) : Prop :=
  ∀ before t after, ts = before ++ t :: after → t.kind = .dot ∨ t.kind = .dotdot →
    ∃ u rest, after = u :: rest ∧ u.offset = t.stop ∧
      ((∃ name, u.kind = .name name) ∨ u.kind = .wildcard ∨ t.kind = .dotdot ∧ u.kind = .lbracket)

theorem Attached.cons_other {t : Token} {ts : List Token} (other : ¬ (t.kind = .dot ∨ t.kind = .dotdot))
    (attached : Attached ts) : Attached (t :: ts) := by
  intro before u after split dotted
  cases before with
  | nil =>
    obtain ⟨rfl, rfl⟩ := List.cons.inj split
    exact absurd dotted other
  | cons v before => exact attached before u after (List.cons.inj split).2 dotted

theorem Attached.cons_dots {t u : Token} {ts : List Token} (place : u.offset = t.stop)
    (following : (∃ name, u.kind = .name name) ∨ u.kind = .wildcard ∨
      t.kind = .dotdot ∧ u.kind = .lbracket) (attached : Attached (u :: ts)) : Attached (t :: u :: ts) := by
  intro before v after split dotted
  cases before with
  | nil =>
    obtain ⟨rfl, rfl⟩ := List.cons.inj split
    exact ⟨u, ts, rfl, place, following⟩
  | cons w before => exact attached before v after (List.cons.inj split).2 dotted

theorem Laid.following {afterDescent : Bool} (laid : Laid (some afterDescent) ps) :
    ∃ p qs, ps = p :: qs ∧ p.gap = [] ∧ ((∃ name, p.kind = .name name) ∨ p.kind = .wildcard ∨
      afterDescent ∧ p.kind = .lbracket) := by
  cases laid with
  | wildcard => exact ⟨_, _, rfl, rfl, .inr (.inl rfl)⟩
  | name => exact ⟨_, _, rfl, rfl, .inl ⟨_, rfl⟩⟩
  | bracket => exact ⟨_, _, rfl, rfl, .inr (.inr ⟨rfl, rfl⟩)⟩

theorem Laid.attached {mode : Option Bool} (laid : Laid mode ps) (offset : Nat) :
    Attached (placed offset ps) := by
  induction laid generalizing offset with
  | ending => exact .cons_other (by simp) fun before t after split => by simp [placed] at split
  | @token gap text kind ps blank reads others ih =>
    refine .cons_other (fun dotted => ?_) (ih _)
    have apart : isApart kind := by
      rcases dotted with rfl | rfl <;> rfl
    obtain ⟨v, number⟩ := reads.number_of_isApart apart
    rcases dotted with same | same <;> simp [number] at same
  | dot _ others ih | dotdot _ others ih =>
    obtain ⟨p, qs, rfl, noGap, following⟩ := others.following
    exact .cons_dots (by simp [stop, noGap]) (by simpa using following) (ih _)
  | wildcard _ ih | name _ _ _ _ ih => exact .cons_other (by simp) (ih _)
  | bracket _ ih => exact ih offset

end Scan

open Scan

/-- Tokens tile a text: in order and apart, each where its own text stands, with blanks alone left out. -/
structure Tiling (text : List Char) (ts : List Token) : Prop where
  ends : ∃ body, ts = body ++ [⟨.eof, text.length, []⟩] ∧ ∀ t ∈ body, t.kind ≠ .eof ∧ t.text ≠ []
  increasing : ts.Pairwise fun t u => t.offset < u.offset
  slices : ∀ t ∈ ts, t.text = (text.drop t.offset).take t.text.length
  disjoint : ts.Pairwise fun t u => t.stop ≤ u.offset
  outside : ∀ i c, text[i]? = some c → (∀ t ∈ ts, ¬ (t.offset ≤ i ∧ i < t.stop)) →
    c = ' ' ∨ c = '\t' ∨ c = '\n' ∨ c = '\r'
  restored : ∃ ps, written ps = text ∧ placed 0 ps = ts ∧
    ∀ p ∈ ps, ∀ c ∈ p.gap, c = ' ' ∨ c = '\t' ∨ c = '\n' ∨ c = '\r'
  attached : Attached ts

theorem text_ne_nil_of_placed (text : ∀ p ∈ ps, p.kind ≠ .eof → p.text ≠ []) {t : Token}
    (member : t ∈ placed offset ps) (inside : t.kind ≠ .eof) : t.text ≠ [] := by
  induction ps generalizing offset with
  | nil => simp [placed] at member
  | cons p ps ih =>
    obtain ⟨first, others⟩ := List.forall_mem_cons.mp text
    rcases List.mem_cons.mp member with rfl | later
    · exact first inside
    · exact ih others later

theorem increasing_of_disjoint {body : List Token} {last : Token} (nonempty : ∀ t ∈ body, t.text ≠ [])
    (disjoint : (body ++ [last]).Pairwise fun t u => t.stop ≤ u.offset) :
    (body ++ [last]).Pairwise fun t u => t.offset < u.offset := by
  obtain ⟨within, -, toEnd⟩ := List.pairwise_append.mp disjoint
  have before {t u : Token} (member : t ∈ body) (apart : t.stop ≤ u.offset) : t.offset < u.offset := by
    have positive := List.length_pos_iff.mpr (nonempty t member)
    simp only [stop] at apart
    omega
  apply List.pairwise_append.mpr
  exact ⟨within.imp_of_mem fun member _ => before member, List.pairwise_singleton _ _,
    fun t member u ends => before member (toEnd t member u ends)⟩

theorem scan_tiling {text : List Char} {ts : List Token} (scanned : scan text = .ok ts) : Tiling text ts := by
  obtain ⟨ps, laid, rfl, rfl⟩ := scan_eq_ok_iff_hasLayout.mp scanned
  obtain ⟨body, last, split, inside, -⟩ := scan_eq_append scanned
  have atEnd : last = ⟨.eof, (written ps).length, []⟩ := by
    have ends := scan_getLast? scanned
    rw [split] at ends
    simpa using ends
  have nonempty : ∀ t ∈ body, t.text ≠ [] := fun t member =>
    text_ne_nil_of_placed laid.text_ne_nil (split ▸ List.mem_append_left _ member) (inside t member)
  have disjoint := placed_disjoint 0 ps
  have increasing : (placed 0 ps).Pairwise fun t u => t.offset < u.offset := by
    rw [split] at disjoint ⊢
    exact increasing_of_disjoint nonempty disjoint
  have blank : ∀ p ∈ ps, ∀ c ∈ p.gap, c = ' ' ∨ c = '\t' ∨ c = '\n' ∨ c = '\r' :=
    fun p member c inGap => isBlank_iff.mp (laid.blank p member c inGap)
  refine ⟨⟨body, by rw [split, atEnd], fun t member => ⟨inside t member, nonempty t member⟩⟩, increasing, ?_,
    disjoint, ?_, ⟨ps, rfl, rfl, blank⟩, laid.attached 0⟩
  · intro t member
    obtain ⟨before, after, whole, place⟩ := placed_slice member
    rw [Nat.zero_add] at place
    rw [whole, place, List.append_assoc, List.drop_left, List.take_left]
  · intro i c at_i outside
    have notIn : ∀ t ∈ placed 0 ps, ¬ (t.offset ≤ 0 + i ∧ 0 + i < t.stop) := by
      simpa only [Nat.zero_add] using outside
    obtain ⟨p, member, inGap⟩ := mem_gap_of_outside at_i notIn
    exact blank p member c inGap

/-- A scan comes to an end whatever more fuel it is given, and its tokens tile the text. -/
theorem scan_tiles (text : List Char) : (∀ fuel, text.length ≤ fuel → scanFrom fuel 0 text = scan text) ∧
    ∀ ts, scan text = .ok ts → Tiling text ts :=
  ⟨fun _ enough => scanFrom_eq_of_enough enough (Nat.le_refl _) 0, fun _ => scan_tiling⟩

theorem scan_tiles_spaced : ∃ ts, scan "$ ..*\n[ 1.5e3 ] ".toList = .ok ts ∧
    Tiling "$ ..*\n[ 1.5e3 ] ".toList ts := by
  have scanned : ∃ ts, scan "$ ..*\n[ 1.5e3 ] ".toList = .ok ts := ⟨_, by rfl⟩
  obtain ⟨ts, scanned⟩ := scanned
  exact ⟨ts, scanned, (scan_tiles _).2 ts scanned⟩

end Token

end JsonPath

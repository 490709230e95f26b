import JsonPath.Proofs.Evaluation.Equality
import JsonPath.Proofs.Evaluation.Progress
import JsonPath.Proofs.Value.Datum

namespace JsonPath

namespace Value

section

variable {ms ns : List (String × Value)}

theorem sameNames_iff (left : (ms.map Prod.fst).Nodup) (right : (ns.map Prod.fst).Nodup) :
    Eval.sameNames ms ns = true ↔ ∀ name, name ∈ ms.map Prod.fst ↔ name ∈ ns.map Prod.fst := by
  have included : (ms.all fun m => (ns.lookup m.1).isSome) = true ↔
      ms.map Prod.fst ⊆ ns.map Prod.fst := by
    simp only [List.all_eq_true, lookup_isSome_iff, List.subset_def, List.forall_mem_map]
  have lengths : ms.length = ns.length ↔ (ms.map Prod.fst).length = (ns.map Prod.fst).length := by
    simp
  rw [Eval.sameNames, Bool.and_eq_true, beq_iff_eq, included, lengths]
  constructor
  · rintro ⟨length, subset⟩ name
    exact ((List.subperm_of_subset left subset).perm_of_length_le length.ge).mem_iff
  · intro same
    have order := (List.perm_ext_iff_of_nodup left right).mpr same
    exact ⟨order.length_eq, order.subset⟩

end

mutual

theorem same_iff_datum : ∀ {v w : Value}, v.IsData → w.IsData →
    (v.same w = true ↔ v.datum = w.datum)
  | .array vs, w, left, right => by
    cases w with
    | array ws =>
      rw [same, Bool.and_eq_true, beq_iff_eq, datum, datum, Datum.array.injEq]
      constructor
      · rintro ⟨length, items⟩
        exact (sameItems_iff_datum length left.items right.items).mp items
      · intro items
        have length : vs.length = ws.length := by
          rw [← datumItems_length vs, items, datumItems_length]
        exact ⟨length, (sameItems_iff_datum length left.items right.items).mpr items⟩
    | _ => simp [same, datum]
  | .object ms, w, left, right => by
    cases w with
    | object ns =>
      rw [same, Bool.and_eq_true, datum, datum, Datum.object.injEq, funext_iff,
        sameNames_iff left.distinct right.distinct, sameMembers_iff_datum left.members right.members]
      exact datumMembers_iff left.distinct
    | _ => simp [same, datum]
  | .null, w, left, right => by cases w <;> simp [same, datum]
  | .bool b, w, left, right => by cases w <;> simp [same, datum]
  | .number n, w, left, right => by
    cases w with
    | number m => simp [same, datum, Number.same_iff left.isNumber]
    | _ => simp [same, datum]
  | .string s, w, left, right => by cases w <;> simp [same, datum]

theorem sameItems_iff_datum : ∀ {vs ws : List Value}, vs.length = ws.length →
    (∀ v ∈ vs, v.IsData) → (∀ w ∈ ws, w.IsData) →
    (sameItems vs ws = true ↔ datumItems vs = datumItems ws)
  | [], [], _, _, _ => by simp [sameItems]
  | v :: vs, w :: ws, length, left, right => by
    obtain ⟨here, more⟩ := List.forall_mem_cons.mp left
    obtain ⟨here', more'⟩ := List.forall_mem_cons.mp right
    rw [sameItems, Bool.and_eq_true, same_iff_datum here here',
      sameItems_iff_datum (by simpa using length) more more', datumItems, datumItems, List.cons.injEq]

theorem sameMembers_iff_datum : ∀ {ms ns : List (String × Value)}, (∀ m ∈ ms, m.2.IsData) →
    (∀ n ∈ ns, n.2.IsData) →
    (sameMembers ms ns = true ↔ ∀ m ∈ ms, datumMember? ns m.1 = some m.2.datum)
  | [], ns, _, _ => by simp [sameMembers]
  | (name, v) :: ms, ns, left, right => by
    obtain ⟨here, more⟩ := List.forall_mem_cons.mp left
    have found : (ns.lookup name).any v.same = true ↔ datumMember? ns name = some v.datum := by
      rw [datumMember?_eq_lookup]
      cases lookup : ns.lookup name with
      | none => simp
      | some w =>
        have data := right (name, w) (mem_of_lookup_eq_some lookup)
        rw [Option.any_some, same_iff_datum here data, Option.map_some, Option.some.injEq, eq_comm]
    rw [sameMembers, Bool.and_eq_true, found, sameMembers_iff_datum more right,
      List.forall_mem_cons]

end

end Value

namespace Denoted

def datum? : Denoted → Option Datum
  | nothing => none
  | value v _ => some v.datum

/-- Nothing, or a value that is data and that the document has at the place it comes from, if any. -/
def IsData (document : Value) : Denoted → Prop
  | nothing => True
  | value v origin => v.IsData ∧ ∀ l ∈ origin, document.at? l = some v

variable {document : Value} {d e : Denoted}

theorem eq_of_isSamePlace {v w : Value} {origin origin' : Option Location}
    (left : (value v origin).IsData document) (right : (value w origin').IsData document)
    (place : (value v origin).isSamePlace (value w origin') = true) : v = w := by
  obtain ⟨-, -, l, same, same'⟩ := isSamePlace_iff.mp place
  have here := left.2 l same
  rw [right.2 l same'] at here
  exact (Option.some.inj here).symm

theorem same_iff_datum? (left : d.IsData document) (right : e.IsData document) :
    d.same e = true ↔ d.datum? = e.datum? := by
  cases d with
  | nothing => cases e <;> simp [same, datum?]
  | value v origin =>
    cases e with
    | nothing => simp [same, datum?]
    | value w origin' =>
      have deep := Value.same_iff_datum left.1 right.1
      have shortcut (place : (value v origin).isSamePlace (value w origin') = true) :
          v.datum = w.datum := by rw [eq_of_isSamePlace left right place]
      rw [same, Bool.or_eq_true, deep, datum?, datum?, Option.some.injEq]
      exact ⟨fun either => either.elim shortcut id, .inr⟩

end Denoted

namespace Eval

def ComparesTo (d e : Denoted) (b : Bool) : Prop := ∃ options p p', equal options d e p = .ok b p'

theorem ComparesTo.iff_datum? {document : Value} {d e : Denoted} {b : Bool}
    (left : d.IsData document) (right : e.IsData document) (compares : ComparesTo d e b) :
    b = true ↔ d.datum? = e.datum? := by
  obtain ⟨options, p, p', run⟩ := compares
  rw [eq_same_of_equal run, Denoted.same_iff_datum? left right]

/-- Equality is mathematical on what a document and literals give. -/
structure EqualityIsMathematical (document : Value) : Prop where
  /-- Only a limit keeps a comparison from an answer, and the answer is whether both sides say the
  same. -/
  answers : ∀ options {d e : Denoted}, d.IsData document → e.IsData document →
    Returns Excessive (equal options d e) fun b => b = true ↔ d.datum? = e.datum?
  /-- Either side can stand for any other that says the same, at the same place or elsewhere. -/
  placeless : ∀ {d d' e e' : Denoted} {b b' : Bool}, d.IsData document → d'.IsData document →
    e.IsData document → e'.IsData document → d.datum? = d'.datum? → e.datum? = e'.datum? →
    ComparesTo d e b → ComparesTo d' e' b' → b = b'
  reflexive : ∀ {d : Denoted} {b : Bool}, d.IsData document → ComparesTo d d b → b = true
  symmetric : ∀ {d e : Denoted} {b b' : Bool}, d.IsData document → e.IsData document →
    ComparesTo d e b → ComparesTo e d b' → b = b'
  transitive : ∀ {c d e : Denoted} {b : Bool}, c.IsData document → d.IsData document →
    e.IsData document → ComparesTo c d true → ComparesTo d e true → ComparesTo c e b → b = true

theorem equal_isMathematical (document : Value) : EqualityIsMathematical document where
  answers options d e left right p := by
    have finishes := Returns.equal excessive_excess options d e p
    cases run : equal options d e p with
    | ok b p' => exact ComparesTo.iff_datum? left right ⟨options, p, p', run⟩
    | error x p' =>
      rw [run] at finishes
      exact finishes
  placeless left left' right right' sameLeft sameRight compares compares' := by
    rw [Bool.eq_iff_iff, compares.iff_datum? left right, compares'.iff_datum? left' right', sameLeft,
      sameRight]
  reflexive data compares := (compares.iff_datum? data data).mpr rfl
  symmetric left right compares compares' := by
    rw [Bool.eq_iff_iff, compares.iff_datum? left right, compares'.iff_datum? right left, eq_comm]
  transitive first second third compares compares' compares'' := by
    have left := (compares.iff_datum? first second).mp rfl
    have right := (compares'.iff_datum? second third).mp rfl
    exact (compares''.iff_datum? first third).mpr (left.trans right)

/-- Members in another order, and a double for an integer. -/
theorem equal_isMathematical_reordered :
    let left : Value := .object [("x", .number (.int 1)), ("y", .bool true)]
    let right : Value := .object [("y", .bool true), ("x", .number (.double (.finite false 1023 0)))]
    let document : Value := .object [("a", left), ("b", right)]
    let d : Denoted := .value left (some [.member "a"])
    let e : Denoted := .value right (some [.member "b"])
    d.IsData document ∧ e.IsData document ∧ ComparesTo d e true ∧ d.datum? = e.datum? := by
  intro left right document d e
  have leftData : left.IsData := by
    refine .object (by decide) fun m member => ?_
    rcases List.mem_pair.mp member with rfl | rfl
    · exact .scalar rfl (by simp [Value.IsNumber])
    · exact .scalar rfl trivial
  have rightData : right.IsData := by
    refine .object (by decide) fun m member => ?_
    rcases List.mem_pair.mp member with rfl | rfl
    · exact .scalar rfl trivial
    · exact .scalar rfl (by simp [Value.IsNumber])
  have leftSide : d.IsData document := ⟨leftData, fun l here => by cases here; rfl⟩
  have rightSide : e.IsData document := ⟨rightData, fun l here => by cases here; rfl⟩
  have returns : (equal {} d e {}).casesOn (motive := fun _ => Bool) (fun b _ => b)
      (fun _ _ => false) = true := by
    decide +kernel
  have answer := (equal_isMathematical document).answers {} leftSide rightSide
  cases run : equal {} d e {} with
  | error x p =>
    rw [run] at returns
    contradiction
  | ok b p =>
    rw [run] at returns
    obtain rfl : b = true := returns
    exact ⟨leftSide, rightSide, ⟨{}, {}, p, run⟩, (answer.of_ok run).mp rfl⟩

end Eval

end JsonPath

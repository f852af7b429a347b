import XmlTypes.Proofs.Mirroring
/-!
# Documents follow what they depend on

A walk passes over a document that is being walked through, so on a cycle the order of documents
cannot be that of their dependencies. What holds of every pair is `Ordered`: where a dependency
comes after a document, it is because the walk was still going through it, and then it depends in
turn on everything listed since the document. A chain of dependencies leads backwards in the order
unless it meets such a dependency (`Ordered.idxOf_le`).
-/

namespace XmlTypes.Schema

open Relation XmlTypes.Build

section
variable {dependencies : Nat → List Nat} {n fuel : Nat} {w w' w'' : Walk}

/-- Document `i` depends on document `j` directly. -/
def Depends (dependencies : Nat → List Nat) (i j : Nat) : Prop := j ∈ dependencies i

/-! ## Fuel -/

/-- The number of documents below `n` that a walk has not entered. -/
def Walk.unentered (n : Nat) (w : Walk) : Nat :=
  (List.range n).countP (!w.entered.contains ·)

theorem Walk.unentered_le (h : w.entered ⊆ w'.entered) : w'.unentered n ≤ w.unentered n := by
  refine List.countP_mono_left fun i _ hi => ?_
  simp only [Bool.not_eq_true', List.contains_eq_mem, decide_eq_false_iff_not] at hi ⊢
  exact fun hw => hi (h hw)

theorem Walk.unentered_cons_lt {i : Nat} (hi : i < n) (hnew : i ∉ w.entered) :
    Walk.unentered n { w with entered := i :: w.entered } < w.unentered n := by
  refine countP_lt (fun j _ hj => ?_) (List.mem_range.2 hi) (by simpa using hnew) (by simp)
  simp only [List.contains_cons, Bool.not_or, Bool.and_eq_true] at hj
  exact hj.2

/-- Walks along two functions that agree while there are few documents to enter agree. -/
theorem Walk.foldl_settled {f f' : Walk → Nat → Walk} (hf : ∀ (w : Walk) (i : Nat), w.Visits (f w i))
    (heq : ∀ w : Walk, w.unentered n < fuel → ∀ i < n, f w i = f' w i) (is : List Nat) :
    ∀ w : Walk, (∀ i ∈ is, i < n) → w.unentered n < fuel → is.foldl f w = is.foldl f' w := by
  induction is with
  | nil => exact fun _ _ _ => rfl
  | cons i is ih =>
    intro w hn hw
    have hle : (f w i).unentered n ≤ w.unentered n := unentered_le (hf w i).entered
    rw [List.foldl_cons, List.foldl_cons, ← heq w hw i (hn i (by simp))]
    exact ih _ (fun j hj => hn j (by simp [hj])) (by omega)

/-- With fuel for every document that is not entered, more fuel changes nothing. -/
theorem Walk.visit_settled (hn : ∀ i, ∀ j ∈ dependencies i, j < n) :
    ∀ (fuel fuel' : Nat) (w : Walk) (i : Nat), i < n → w.unentered n < fuel →
      w.unentered n < fuel' → w.visit dependencies fuel i = w.visit dependencies fuel' i := by
  intro fuel
  induction fuel with
  | zero => exact fun _ _ _ _ h => absurd h (Nat.not_lt_zero _)
  | succ fuel ih =>
    intro fuel' w i hi h h'
    cases fuel' with
    | zero => exact absurd h' (Nat.not_lt_zero _)
    | succ fuel' =>
      unfold visit
      split
      · rfl
      · rename_i hnew
        rw [List.contains_iff_mem] at hnew
        have hlt := unentered_cons_lt hi hnew
        have hsame (w : Walk) (hw : w.unentered n < min fuel fuel') (j : Nat) (hj : j < n) :
            w.visit dependencies fuel j = w.visit dependencies fuel' j :=
          ih fuel' w j hj (by omega) (by omega)
        rw [foldl_settled (visit_visits fuel) hsame _ _ (hn i) (by omega)]

/-! ## The order of a walk -/

/-- An order of documents, given the documents entered before it: a dependency comes no later than
the document that has it, or else depends on everything from that document on. -/
def Ordered (dependencies : Nat → List Nat) : (entered order : List Nat) → Prop
  | _, [] => True
  | entered, x :: order =>
    (∀ y ∈ dependencies x, y ∈ entered ∨ y = x ∨ ∃ between after, order = between ++ y :: after ∧
      ∀ z ∈ x :: between, ReflTransGen (Depends dependencies) y z) ∧
    Ordered dependencies (x :: entered) order

theorem Ordered.mono {entered entered' order : List Nat} (h : Ordered dependencies entered order)
    (hsub : entered ⊆ entered') : Ordered dependencies entered' order := by
  induction order generalizing entered entered' with
  | nil => trivial
  | cons x order ih =>
    exact ⟨fun y hy => (h.1 y hy).imp_left fun hy => hsub hy, ih h.2 (List.cons_subset_cons x hsub)⟩

theorem Ordered.append {entered order order' : List Nat} (h : Ordered dependencies entered order)
    (h' : Ordered dependencies (order ++ entered) order') :
    Ordered dependencies entered (order ++ order') := by
  induction order generalizing entered with
  | nil => exact h'
  | cons x order ih =>
    refine ⟨fun y hy => ?_, ih h.2 (h'.mono fun j hj => ?_)⟩
    · rcases h.1 y hy with hy | hy | ⟨between, after, rfl, hz⟩
      · exact .inl hy
      · exact .inr (.inl hy)
      · exact .inr (.inr ⟨between, after ++ order', by simp, hz⟩)
    · simp only [List.cons_append, List.mem_cons, List.mem_append] at hj ⊢
      tauto

/-- The document from which the walk came comes last. -/
theorem Ordered.close {entered order : List Nat} {i : Nat}
    (h : Ordered dependencies (i :: entered) order)
    (hreach : ∀ j ∈ order, ReflTransGen (Depends dependencies) i j)
    (hdone : ∀ j ∈ dependencies i, j ∈ i :: entered ∨ j ∈ order) :
    Ordered dependencies entered (order ++ [i]) := by
  induction order generalizing entered with
  | nil =>
    refine ⟨fun y hy => ?_, trivial⟩
    rcases hdone y hy with hy | hy
    · exact (List.mem_cons.1 hy).symm.imp_right .inl
    · cases hy
  | cons x order ih =>
    refine ⟨fun y hy => ?_, ih (h.2.mono ?_) (fun j hj => hreach j (by simp [hj])) fun j hj => ?_⟩
    · rcases h.1 y hy with hy | hy | ⟨between, after, rfl, hz⟩
      · -- A dependency that is being walked through is the document itself, or was so before.
        rcases List.mem_cons.1 hy with rfl | hy
        · exact .inr (.inr ⟨order, [], rfl, hreach⟩)
        · exact .inl hy
      · exact .inr (.inl hy)
      · exact .inr (.inr ⟨between, after ++ [i], by simp, hz⟩)
    · intro j hj
      simp only [List.mem_cons] at hj ⊢
      tauto
    · have hj := hdone j hj
      simp only [List.mem_cons] at hj ⊢
      tauto

/-- What a walk lists between two moments: the documents entered meanwhile, in order. -/
structure Walk.Lists (dependencies : Nat → List Nat) (w w' : Walk) (order : List Nat) : Prop where
  left : w'.left = w.left ++ order
  entered : ∀ j, j ∈ w'.entered ↔ j ∈ order ∨ j ∈ w.entered
  ordered : Ordered dependencies w.entered order

theorem Walk.Lists.refl (w : Walk) : w.Lists dependencies w [] :=
  ⟨by simp, by simp, trivial⟩

theorem Walk.Lists.trans {order order' : List Nat} (h : w.Lists dependencies w' order)
    (h' : w'.Lists dependencies w'' order') : w.Lists dependencies w'' (order ++ order') where
  left := by rw [h'.left, h.left, List.append_assoc]
  entered j := by rw [h'.entered, h.entered, List.mem_append]; tauto
  ordered := h.ordered.append (h'.ordered.mono fun j hj => List.mem_append.2 ((h.entered j).1 hj))

/-- A document is left after what the walk lists below it. -/
theorem Walk.Lists.close {order : List Nat} {i : Nat}
    (h : Walk.Lists dependencies { w with entered := i :: w.entered } w' order)
    (hreach : ∀ j ∈ order, ReflTransGen (Depends dependencies) i j)
    (hdone : ∀ j ∈ dependencies i, j ∈ w'.entered) :
    w.Lists dependencies { w' with left := w'.left ++ [i] } (order ++ [i]) where
  left := by rw [h.left, List.append_assoc]
  entered j := by rw [h.entered, List.mem_append, List.mem_singleton, List.mem_cons, or_assoc]
  ordered := h.ordered.close hreach fun j hj => ((h.entered j).1 (hdone j hj)).symm

/-- What a visit of document `i` comes to: it lists what can be reached from there. -/
def Walk.Covers (dependencies : Nat → List Nat) (w w' : Walk) (i : Nat) : Prop :=
  i ∈ w'.entered ∧
    ∃ order, w.Lists dependencies w' order ∧
      ∀ j ∈ order, ReflTransGen (Depends dependencies) i j

/-- Visits one after another. -/
theorem Walk.foldl_lists {f : Walk → Nat → Walk}
    (hf : ∀ w : Walk, w.unentered n < fuel → ∀ i < n, w.Covers dependencies (f w i) i)
    (is : List Nat) : ∀ w : Walk, (∀ i ∈ is, i < n) → w.unentered n < fuel →
      (∀ i ∈ is, i ∈ (is.foldl f w).entered) ∧
        ∃ order, w.Lists dependencies (is.foldl f w) order ∧
          ∀ j ∈ order, ∃ i ∈ is, ReflTransGen (Depends dependencies) i j := by
  induction is with
  | nil => exact fun w _ _ => ⟨by simp, [], .refl w, by simp⟩
  | cons i is ih =>
    intro w hn hw
    obtain ⟨hi, order, hlists, hreach⟩ := hf w hw i (hn i (by simp))
    have hle : (f w i).unentered n ≤ w.unentered n :=
      unentered_le fun j hj => (hlists.entered j).2 (.inr hj)
    obtain ⟨his, order', hlists', hreach'⟩ :=
      ih (f w i) (fun j hj => hn j (by simp [hj])) (by omega)
    refine ⟨fun j hj => ?_, order ++ order', hlists.trans hlists', fun j hj => ?_⟩
    · rcases List.mem_cons.1 hj with rfl | hj
      · exact (hlists'.entered j).2 (.inr hi)
      · exact his j hj
    · rcases List.mem_append.1 hj with hj | hj
      · exact ⟨i, by simp, hreach j hj⟩
      · obtain ⟨k, hk, hkj⟩ := hreach' j hj
        exact ⟨k, by simp [hk], hkj⟩

theorem Walk.visit_covers (hn : ∀ i, ∀ j ∈ dependencies i, j < n) :
    ∀ (fuel : Nat) (w : Walk), w.unentered n < fuel → ∀ i < n,
      w.Covers dependencies (w.visit dependencies fuel i) i := by
  intro fuel
  induction fuel with
  | zero => exact fun _ h => absurd h (Nat.not_lt_zero _)
  | succ fuel ih =>
    intro w hw i hi
    unfold visit
    split
    · rename_i hold
      exact ⟨by simpa using hold, [], .refl w, by simp⟩
    · rename_i hnew
      rw [List.contains_iff_mem] at hnew
      have hlt := unentered_cons_lt hi hnew
      obtain ⟨hdeps, order, hlists, hreach⟩ :=
        foldl_lists ih (dependencies i) { w with entered := i :: w.entered } (hn i) (by omega)
      have hbelow (j : Nat) (hj : j ∈ order) : ReflTransGen (Depends dependencies) i j := by
        obtain ⟨k, hk, hkj⟩ := hreach j hj
        exact .head hk hkj
      refine ⟨(hlists.entered i).2 (.inr (by simp)), order ++ [i], hlists.close hbelow hdeps,
        fun j hj => ?_⟩
      rcases List.mem_append.1 hj with hj | hj
      · exact hbelow j hj
      · exact List.mem_singleton.1 hj ▸ .refl

/-! ## Chains of dependencies -/

/-- What the order of a walk tells of one of its documents. -/
theorem Ordered.of_append {entered before after : List Nat} {x y : Nat}
    (h : Ordered dependencies entered (before ++ x :: after)) (hy : y ∈ dependencies x) :
    y ∈ entered ∨ y ∈ before ++ [x] ∨ ∃ between rest, after = between ++ y :: rest ∧
      ∀ z ∈ x :: between, ReflTransGen (Depends dependencies) y z := by
  induction before generalizing entered with
  | nil => simpa using h.1 y hy
  | cons v before ih =>
    rcases ih h.2 with hy | hy | hy
    · exact (List.mem_cons.1 hy).symm.imp_right fun hy => .inl (by simp [hy])
    · exact .inr (.inl (by simp [hy]))
    · exact .inr (.inr hy)

/-- A dependency that comes after a document depends on everything from that document on. -/
theorem Ordered.reaches {order : List Nat} (h : Ordered dependencies [] order)
    (hnodup : order.Nodup) {x y z : Nat} (hx : x ∈ order) (hy : y ∈ dependencies x)
    (hlt : order.idxOf x < order.idxOf y) (hxz : order.idxOf x ≤ order.idxOf z)
    (hzy : order.idxOf z ≤ order.idxOf y) : ReflTransGen (Depends dependencies) y z := by
  obtain ⟨before, after, rfl⟩ := List.append_of_mem hx
  have hxb : x ∉ before := fun hx => (List.nodup_append.1 hnodup).2.2 x hx x (by simp) rfl
  have hidx : (before ++ x :: after).idxOf x = before.length := by
    rw [List.idxOf_append_of_notMem hxb, List.idxOf_cons_self, Nat.add_zero]
  rw [hidx] at hlt hxz
  rcases h.of_append hy with hy | hy | ⟨between, rest, rfl, hz⟩
  · cases hy
  · -- What stands before `x` does not come after it.
    rcases List.mem_append.1 hy with hy | hy
    · rw [List.idxOf_append_of_mem hy] at hlt
      exact absurd (List.idxOf_lt_length_iff.2 hy) (by omega)
    · rw [List.mem_singleton.1 hy, hidx] at hlt
      exact absurd hlt (Nat.lt_irrefl _)
  · by_cases hmem : z ∈ x :: between
    · exact hz z hmem
    · -- Nothing else stands between the two, so it is the dependency itself.
      have hsplit : before ++ x :: (between ++ y :: rest) = (before ++ x :: between) ++ y :: rest := by
        simp
      have hyb : y ∉ before ++ x :: between := fun hy =>
        (List.nodup_append.1 (hsplit ▸ hnodup)).2.2 y hy y (by simp) rfl
      have hzb : z ∉ before ++ x :: between := fun hz => by
        rcases List.mem_append.1 hz with hz | hz
        · rw [List.idxOf_append_of_mem hz] at hxz
          exact absurd (List.idxOf_lt_length_iff.2 hz) (by omega)
        · exact hmem hz
      rw [hsplit, List.idxOf_append_of_notMem hyb, List.idxOf_append_of_notMem hzb,
        List.idxOf_cons_self] at hzy
      by_cases hyz : y = z
      · exact hyz ▸ .refl
      · rw [List.idxOf_cons_ne _ hyz] at hzy
        omega

/-- A chain of dependencies leads backwards from a document unless it meets one that depends on it
and comes after it. -/
theorem Ordered.idxOf_le {order : List Nat} (h : Ordered dependencies [] order)
    (hnodup : order.Nodup) (hall : ∀ x y, Depends dependencies x y → x ∈ order) {a b : Nat}
    (hchain : TransGen (fun x y => Depends dependencies x y ∧
      (TransGen (Depends dependencies) y a → order.idxOf y ≤ order.idxOf a)) a b) :
    order.idxOf b ≤ order.idxOf a := by
  have hstep {x y : Nat} (hx : order.idxOf x ≤ order.idxOf a) (hxy : Depends dependencies x y)
      (hya : TransGen (Depends dependencies) y a → order.idxOf y ≤ order.idxOf a) :
      order.idxOf y ≤ order.idxOf a := by
    by_contra hlt
    have hreach := h.reaches hnodup (hall x y hxy) hxy (by omega) hx (by omega)
    rcases reflTransGen_iff_eq_or_transGen.1 hreach with rfl | hreach
    · exact hlt (Nat.le_refl _)
    · exact hlt (hya hreach)
  induction hchain with
  | single hy => exact hstep (Nat.le_refl _) hy.1 hy.2
  | tail _ hy ih => exact hstep ih hy.1 hy.2

end

/-! ## The order of the documents of a schema -/

/-- Document `a` includes or imports a location, and `b` is the first document there. -/
def SchemaSet.DependsOn (set : SchemaSet) (a b : Nat) : Prop :=
  ∃ doc, set.documents[a]? = some doc ∧ ∃ location ∈ doc.includes ++ doc.imports,
    set.documents.findIdx? (·.location = location) = some b

namespace Index

variable {set : SchemaSet}

theorem locations_get? (set : SchemaSet) (location : String) :
    (ofSet set).locations.get? location = set.documents.findIdx? (·.location = location) := by
  rw [List.findIdx?_eq_fst_find?_zipIdx]
  exact (Table.get?_ofEntries _ _).trans (by simp [Table.get?, List.find?_map, Function.comp_def])

theorem depends_iff (set : SchemaSet) (a b : Nat) :
    Depends (ofSet set).dependencies a b ↔ set.DependsOn a b := by
  unfold Depends dependencies SchemaSet.DependsOn
  rw [show (ofSet set).documents = set.documents from rfl]
  cases set.documents[a]? with
  | none => simp
  | some doc =>
    simp only [Document.dependencies, List.mem_filterMap, locations_get?, Option.some.injEq,
      exists_eq_left']

theorem depends_eq (set : SchemaSet) : Depends (ofSet set).dependencies = set.DependsOn :=
  funext₂ fun a b => propext (depends_iff set a b)

theorem dependencies_lt (set : SchemaSet) (i j : Nat) (h : j ∈ (ofSet set).dependencies i) :
    j < set.documents.length := by
  obtain ⟨doc, -, location, -, hj⟩ := (depends_iff set i j).1 h
  exact (List.findIdx?_eq_some_iff_getElem.1 hj).1

theorem unentered_empty (n : Nat) : Walk.unentered n {} < n + 1 := by
  have hle : Walk.unentered n {} ≤ (List.range n).length := List.countP_le_length
  rw [List.length_range] at hle
  omega

/-- The walk does not run out of fuel. -/
theorem buildOrder_settled (set : SchemaSet) {fuel : Nat} (h : set.documents.length < fuel) :
    ((List.range set.documents.length).foldl
      (Walk.visit (ofSet set).dependencies fuel) {}).left = (ofSet set).buildOrder := by
  have hempty := unentered_empty set.documents.length
  exact congrArg Walk.left (Walk.foldl_settled (Walk.visit_visits fuel)
    (fun w hw i hi => Walk.visit_settled (dependencies_lt set) fuel _ w i hi
      (Nat.lt_of_le_of_lt (Nat.le_of_lt_succ hw) h) hw) _ _
    (fun i hi => List.mem_range.1 hi) hempty)

theorem buildOrder_lists (set : SchemaSet) :
    Ordered (ofSet set).dependencies [] (ofSet set).buildOrder ∧
      ∀ j ∈ (ofSet set).buildOrder, ∃ i ∈ List.range set.documents.length,
        ReflTransGen (Depends (ofSet set).dependencies) i j := by
  obtain ⟨-, order, hlists, hreach⟩ :=
    Walk.foldl_lists (Walk.visit_covers (dependencies_lt set) (set.documents.length + 1))
      (List.range set.documents.length) {} (fun i hi => List.mem_range.1 hi) (unentered_empty _)
  obtain rfl : (ofSet set).buildOrder = order := hlists.left.trans (List.nil_append _)
  exact ⟨hlists.ordered, hreach⟩

theorem buildOrder_perm (set : SchemaSet) :
    (ofSet set).buildOrder.Perm (List.range set.documents.length) := by
  refine (List.perm_ext_iff_of_nodup (nodup_buildOrder _) List.nodup_range).2 fun j => ⟨fun h => ?_,
    fun h => mem_buildOrder (List.mem_range.1 h)⟩
  obtain ⟨i, hi, hij⟩ := (buildOrder_lists set).2 j h
  rcases hij.cases_tail with rfl | ⟨k, -, hkj⟩
  · exact hi
  · exact List.mem_range.2 (dependencies_lt set k j hkj)

/-- Document `b` stands before document `a` in the order of documents. -/
def Precedes (ix : Index) (b a : Nat) : Prop :=
  ix.buildOrder.idxOf b < ix.buildOrder.idxOf a

instance (ix : Index) (b a : Nat) : Decidable (ix.Precedes b a) :=
  inferInstanceAs (Decidable (_ < _))

theorem mem_buildOrder_of_dependsOn {a b : Nat} (h : set.DependsOn a b) :
    a ∈ (ofSet set).buildOrder ∧ b ∈ (ofSet set).buildOrder := by
  obtain ⟨doc, hdoc, -⟩ := id h
  exact ⟨mem_buildOrder (List.getElem?_eq_some_iff.1 hdoc).1,
    mem_buildOrder (dependencies_lt set a b ((depends_iff set a b).2 h))⟩

/-- A document comes after what it depends on along a chain on which nothing that depends on it
in turn comes after it. -/
theorem precedes_of_chain {a b : Nat} (hchain : TransGen (fun x y => set.DependsOn x y ∧
      (TransGen set.DependsOn y a → ¬ (ofSet set).Precedes a y)) a b)
    (hback : ¬ TransGen set.DependsOn b a) : (ofSet set).Precedes b a := by
  have hle : (ofSet set).buildOrder.idxOf b ≤ (ofSet set).buildOrder.idxOf a := by
    refine (buildOrder_lists set).1.idxOf_le (nodup_buildOrder _) (fun x y hxy => ?_) ?_
    · exact (mem_buildOrder_of_dependsOn ((depends_iff set x y).1 hxy)).1
    · rw [depends_eq]
      exact TransGen.mono (fun x y h => ⟨h.1, fun hy => Nat.le_of_not_lt (h.2 hy)⟩) _ _ hchain
  obtain ⟨x, -, hxb, -⟩ := TransGen.tail'_iff.1 hchain
  refine Nat.lt_of_le_of_ne hle fun heq => hback ?_
  rw [(List.idxOf_inj (mem_buildOrder_of_dependsOn hxb).2).1 heq] at hchain ⊢
  exact TransGen.mono (fun _ _ h => h.1) _ _ hchain

/-- Of the documents that depend on each other some document comes last. -/
theorem exists_last (set : SchemaSet) (a : Nat) :
    ∃ c, (c = a ∨ TransGen set.DependsOn a c ∧ TransGen set.DependsOn c a) ∧
      ∀ y, TransGen set.DependsOn c y → TransGen set.DependsOn y c →
        ¬ (ofSet set).Precedes c y := by
  classical
  let cycle := insert a ((Finset.range set.documents.length).filter fun c =>
    TransGen set.DependsOn a c ∧ TransGen set.DependsOn c a)
  have hmem (c : Nat) :
      c ∈ cycle ↔ c = a ∨ TransGen set.DependsOn a c ∧ TransGen set.DependsOn c a := by
    simp only [cycle, Finset.mem_insert, Finset.mem_filter, Finset.mem_range]
    refine or_congr_right (and_iff_right_of_imp fun hc => ?_)
    obtain ⟨x, -, hxc⟩ := TransGen.tail'_iff.1 hc.1
    exact dependencies_lt set x c ((depends_iff set x c).2 hxc)
  obtain ⟨c, hc, hmax⟩ := cycle.exists_max_image (ofSet set).buildOrder.idxOf
    ⟨a, (hmem a).2 (.inl rfl)⟩
  refine ⟨c, (hmem c).1 hc, fun y hcy hyc => Nat.not_lt.2 (hmax y ((hmem y).2 ?_))⟩
  rcases (hmem c).1 hc with rfl | ⟨hac, hca⟩
  · exact .inr ⟨hcy, hyc⟩
  · exact .inr ⟨hac.trans hcy, hyc.trans hca⟩

/-- The documents come in an order in which each stands once. A document comes after everything
that it depends on along a chain without documents that come after it and depend on it, and what
does not depend on it comes before the last document of its cycle in any case. -/
theorem dependencies_come_first (set : SchemaSet) :
    let n := set.documents.length
    (∀ fuel > n, ((List.range n).foldl (Walk.visit (ofSet set).dependencies fuel) {}).left =
      (ofSet set).buildOrder) ∧
    (ofSet set).buildOrder.Perm (List.range n) ∧
    ∀ a b, TransGen set.DependsOn a b → ¬ TransGen set.DependsOn b a →
      (TransGen (fun x y => set.DependsOn x y ∧
        (TransGen set.DependsOn y a → ¬ (ofSet set).Precedes a y)) a b →
          (ofSet set).Precedes b a) ∧
      ∃ c, (c = a ∨ TransGen set.DependsOn a c ∧ TransGen set.DependsOn c a) ∧
        (ofSet set).Precedes b c := by
  refine ⟨fun fuel h => buildOrder_settled set h, buildOrder_perm set, fun a b hab hba =>
    ⟨fun hchain => precedes_of_chain hchain hba, ?_⟩⟩
  obtain ⟨c, hc, hlast⟩ := exists_last set a
  have hcb : TransGen set.DependsOn c b := by
    rcases hc with rfl | ⟨-, hca⟩
    · exact hab
    · exact hca.trans hab
  have hbc : ¬ TransGen set.DependsOn b c := fun hbc => by
    rcases hc with rfl | ⟨-, hca⟩
    · exact hba hbc
    · exact hba (hbc.trans hca)
  refine ⟨c, hc, precedes_of_chain ?_ hbc⟩
  -- Whatever lies on the way from the last document back to it belongs to the cycle.
  clear hab hba hbc
  induction hcb with
  | single hy => exact .single ⟨hy, hlast _ (.single hy)⟩
  | tail hx hy ih => exact ih.tail ⟨hy, hlast _ (hx.tail hy)⟩

/-- Document 0 includes the others, and document 1 includes document 0. -/
def ring : SchemaSet :=
  { documents :=
      [{ location := "c.xsd", includes := ["a.xsd", "b.xsd"] },
       { location := "a.xsd", includes := ["c.xsd"] },
       { location := "b.xsd" }] }

theorem ring_dependsOn {a b : Nat} : ring.DependsOn a b ↔ b ∈ (ofSet ring).dependencies a :=
  (depends_iff ring a b).symm

theorem ring_last (b : Nat) : ¬ TransGen ring.DependsOn 2 b := fun h => by
  obtain ⟨c, hc, -⟩ := TransGen.head'_iff.1 h
  exact absurd (ring_dependsOn.1 hc) (List.not_mem_nil)

theorem dependencies_come_first_ring :
    TransGen ring.DependsOn 0 2 ∧ ¬ TransGen ring.DependsOn 2 0 ∧ (ofSet ring).Precedes 2 0 ∧
      ∃ c, (c = 1 ∨ TransGen ring.DependsOn 1 c ∧ TransGen ring.DependsOn c 1) ∧
        (ofSet ring).Precedes 2 c := by
  have hdirect : ring.DependsOn 0 2 := ring_dependsOn.2 (by decide)
  have hback : ring.DependsOn 1 0 := ring_dependsOn.2 (by decide)
  have h := (dependencies_come_first ring).2.2
  exact ⟨.single hdirect, ring_last 0,
    (h 0 2 (.single hdirect) (ring_last 0)).1 (.single ⟨hdirect, fun h => absurd h (ring_last 0)⟩),
    (h 1 2 (.tail (.single hback) hdirect) (ring_last 1)).2⟩

/-- In the walk through document 0 document 1 is left before document 2 is entered. -/
theorem ring_dependency_comes_later :
    TransGen ring.DependsOn 1 2 ∧ ¬ TransGen ring.DependsOn 2 1 ∧ ¬ (ofSet ring).Precedes 2 1 :=
  ⟨.tail (.single (ring_dependsOn.2 (by decide))) (ring_dependsOn.2 (by decide) : ring.DependsOn 0 2),
    ring_last 1, by decide⟩

end Index

end XmlTypes.Schema

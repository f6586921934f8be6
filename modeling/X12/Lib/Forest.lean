import Mathlib.Data.List.Count
import Mathlib.Data.List.Nodup
import Mathlib.Data.List.Perm.Subperm
import Mathlib.Logic.Relation
import Mathlib.Tactic.Common

/-! # Rooted trees with redundant links

A tree stored twice, as a parent pointer for each node and as an ordered list
of children for each node. The two have to agree, and the pointers have to
lead to the root. The operations on such a tree are described by what they do
to the pointers and to the number of occurrences in each list, so that the
position at which a child is inserted never matters. -/

namespace Forest

/-- Parent pointers and child lists; a node without a parent is absent. -/
structure Links (α : Type*) where
  parent : α → Option α
  children : α → List α

namespace Links

variable {α : Type*}

/-- A node of the tree. -/
def Present (F : Links α) (a : α) : Prop :=
  F.parent a ≠ none

/-- Following the pointers from a node reaches the root in so many steps. -/
inductive AtDepth (F : Links α) (root : α) : α → Nat → Prop
  | root : AtDepth F root root 0
  | step {a p : α} {n : Nat} (below : a ≠ root) (parent : F.parent a = some p)
      (rest : AtDepth F root p n) : AtDepth F root a (n + 1)

/-- The two representations agree and form one tree. -/
structure WellFormed [DecidableEq α] (F : Links α) (root : α) : Prop where
  root_parent : F.parent root = some root
  parent_present : ∀ {a p : α}, F.parent a = some p → F.Present p
  count_children : ∀ {p : α}, F.Present p → ∀ c : α,
    (F.children p).count c = if c ≠ root ∧ F.parent c = some p then 1 else 0
  rooted : ∀ {a : α}, F.Present a → ∃ n, F.AtDepth root a n

/-- A child that is listed by a node of the tree. -/
def Child (F : Links α) (p c : α) : Prop :=
  F.Present p ∧ c ∈ F.children p

/-- A node and everything below it. -/
def Below (F : Links α) : α → α → Prop :=
  Relation.ReflTransGen F.Child

/-- The nodes from a node up to the root. -/
inductive Chain (F : Links α) (root : α) : α → List α → Prop
  | root : Chain F root root [root]
  | step {a p : α} {l : List α} (below : a ≠ root) (parent : F.parent a = some p)
      (rest : Chain F root p l) : Chain F root a (a :: l)

/-- The nodes from a node up to but not including `top`. -/
inductive PathTo (F : Links α) (root top : α) : α → List α → Prop
  | top : PathTo F root top top []
  | step {a p : α} {l : List α} (below : a ≠ root) (parent : F.parent a = some p)
      (rest : PathTo F root top p l) : PathTo F root top a (a :: l)

/-- The nearest proper ancestor with a property, and how many steps above it is. -/
inductive NearestAbove (F : Links α) (root : α) (P : α → Prop) : α → α → Nat → Prop
  | parent {a p : α} (below : a ≠ root) (parent : F.parent a = some p) (holds : P p) :
      NearestAbove F root P a p 1
  | above {a p b : α} {n : Nat} (below : a ≠ root) (parent : F.parent a = some p)
      (fails : ¬ P p) (rest : NearestAbove F root P p b n) : NearestAbove F root P a b (n + 1)

/-- The chains of two nodes, which run together from `c` on and are apart before. -/
structure Fork (F : Links α) (root a b c : α) (up down rest : List α) : Prop where
  left : F.Chain root a (up ++ c :: rest)
  right : F.Chain root b (down ++ c :: rest)
  up_off : ∀ x ∈ up, x ∉ down ++ c :: rest
  down_off : ∀ x ∈ down, x ∉ up ++ c :: rest

/-- The deepest node that two nodes lie below. -/
def LowestCommon (F : Links α) (a b c : α) : Prop :=
  F.Below c a ∧ F.Below c b ∧ ∀ d, F.Below d a → F.Below d b → F.Below d c

variable {F F' : Links α} {root a b c p q : α} {m n : Nat}

theorem present_of_parent (h : F.parent a = some p) : F.Present a := by
  rw [Present, h]
  exact Option.some_ne_none _

theorem AtDepth.unique (h : F.AtDepth root a m) (h' : F.AtDepth root a n) : m = n := by
  induction h generalizing n with
  | root =>
    cases h' with
    | root => rfl
    | step hne => exact absurd rfl hne
  | step hne hp _ ih =>
    cases h' with
    | root => exact absurd rfl hne
    | step _ hp' h' =>
      rw [hp] at hp'
      cases hp'
      rw [ih h']

/-- A parent is one step closer to the root. -/
theorem AtDepth.parent (h : F.AtDepth root a n) (hne : a ≠ root) (hp : F.parent a = some p) :
    ∃ m, n = m + 1 ∧ F.AtDepth root p m := by
  cases h with
  | root => exact absurd rfl hne
  | step _ hp' hrest =>
    rw [hp] at hp'
    cases hp'
    exact ⟨_, rfl, hrest⟩

theorem AtDepth.present (h : F.AtDepth root a n) (hroot : F.Present root) : F.Present a := by
  cases h with
  | root => exact hroot
  | step _ hp _ => exact present_of_parent hp

theorem NearestAbove.holds {P : α → Prop} (h : F.NearestAbove root P a b n) : P b := by
  induction h with
  | parent _ _ hp => exact hp
  | above _ _ _ _ ih => exact ih

/-- A node that is its own parent leads nowhere else. -/
theorem AtDepth.eq_of_self (h : F.AtDepth b a n) (hself : F.parent a = some a) : a = b := by
  induction h with
  | root => rfl
  | @step a p n hne hp _ ih =>
    rw [hself] at hp
    cases hp
    exact ih hself

/-- Steps to a node and from there to the root add up. -/
theorem AtDepth.trans (hab : F.AtDepth b a m) (hb : F.AtDepth root b n)
    (hroot : F.parent root = some root) : F.AtDepth root a (m + n) := by
  induction hab with
  | root =>
    rw [Nat.zero_add]
    exact hb
  | @step a p m hne hp hrest ih =>
    rw [Nat.succ_add]
    refine .step ?_ hp ih
    rintro rfl
    exact hne ((AtDepth.step hne hp hrest).eq_of_self hroot)

/-- The nodes on the way to the root: one for each depth. -/
theorem AtDepth.path (h : F.AtDepth root a n) (hroot : F.Present root) :
    ∃ path : List α, path.length = n + 1 ∧ path.Nodup ∧
      ∀ x ∈ path, F.Present x ∧ ∃ k ≤ n, F.AtDepth root x k := by
  induction h with
  | root =>
    refine ⟨[root], rfl, List.nodup_singleton root, fun x hx => ?_⟩
    rw [List.mem_singleton.mp hx]
    exact ⟨hroot, 0, Nat.le_refl 0, .root⟩
  | @step a p n hne hp hrest ih =>
    obtain ⟨path, hlen, hnodup, hpath⟩ := ih
    refine ⟨a :: path, by rw [List.length_cons, hlen], List.nodup_cons.mpr ⟨fun hmem => ?_, hnodup⟩,
      fun x hx => ?_⟩
    · obtain ⟨-, k, hk, hdepth⟩ := hpath a hmem
      have := hdepth.unique (.step hne hp hrest)
      omega
    · rcases List.mem_cons.mp hx with rfl | hx
      · exact ⟨present_of_parent hp, n + 1, Nat.le_refl _, .step hne hp hrest⟩
      · obtain ⟨hpresent, k, hk, hdepth⟩ := hpath x hx
        exact ⟨hpresent, k, by omega, hdepth⟩

/-- A node lies less deep than there are nodes. -/
theorem AtDepth.lt_length (h : F.AtDepth root a n) (hroot : F.Present root) {nodes : List α}
    (hnodes : ∀ x, F.Present x → x ∈ nodes) : n < nodes.length := by
  obtain ⟨path, hlen, hnodup, hpath⟩ := h.path hroot
  have := (hnodup.subperm fun x hx => hnodes x (hpath x hx).1).length_le
  omega

/-! ## Chains to the root -/

theorem AtDepth.exists_chain (h : F.AtDepth root a n) :
    ∃ l, F.Chain root a l ∧ l.length = n + 1 := by
  induction h with
  | root => exact ⟨[root], .root, rfl⟩
  | step below parent _ ih =>
    obtain ⟨l, hl, hlength⟩ := ih
    exact ⟨_, .step below parent hl, congrArg (· + 1) hlength⟩

namespace Chain

variable {l lower upper : List α} {x : α}

theorem head_eq (h : F.Chain root a l) : ∃ rest, l = a :: rest := by
  cases h with
  | root => exact ⟨[], rfl⟩
  | step => exact ⟨_, rfl⟩

theorem root_mem (h : F.Chain root a l) : root ∈ l := by
  induction h with
  | root => exact List.mem_singleton.mpr rfl
  | step _ _ _ ih => exact List.mem_cons_of_mem _ ih

/-- The root ends the chain and is not passed before. -/
theorem takeWhile_ne [DecidableEq α] (h : F.Chain root a l) :
    l = l.takeWhile (· ≠ root) ++ [root] := by
  induction h with
  | root => simp
  | step below _ _ ih =>
    simp only [List.takeWhile_cons, below, ne_eq, not_false_eq_true, decide_true, if_true,
      List.cons_append]
    exact congrArg _ ih

/-- From any node of the chain on, it is the chain of that node. -/
theorem split (h : F.Chain root a l) (hl : l = lower ++ x :: upper) :
    F.Chain root x (x :: upper) ∧ F.PathTo root x a lower := by
  induction h generalizing lower with
  | root =>
    cases lower with
    | nil =>
      obtain ⟨rfl, rfl⟩ := List.cons.inj hl
      exact ⟨.root, .top⟩
    | cons b lower => exact absurd (List.cons.inj hl).2 (by simp)
  | step below parent rest ih =>
    cases lower with
    | nil =>
      obtain ⟨rfl, rfl⟩ := List.cons.inj hl
      exact ⟨.step below parent rest, .top⟩
    | cons b lower =>
      obtain ⟨rfl, hrest⟩ := List.cons.inj hl
      exact ⟨(ih hrest).1, .step below parent (ih hrest).2⟩

theorem unique {l' : List α} (h : F.Chain root a l) (h' : F.Chain root a l') : l = l' := by
  induction h generalizing l' with
  | root =>
    cases h' with
    | root => rfl
    | step below => exact absurd rfl below
  | step below parent _ ih =>
    cases h' with
    | root => exact absurd rfl below
    | step _ parent' rest' =>
      rw [parent] at parent'
      cases parent'
      rw [ih rest']

end Chain

theorem AtDepth.exists_pathTo (h : F.AtDepth root a n) : ∃ l, F.PathTo root root a l := by
  induction h with
  | root => exact ⟨[], .top⟩
  | step below parent _ ih =>
    obtain ⟨l, hl⟩ := ih
    exact ⟨_, .step below parent hl⟩

theorem PathTo.atDepth {l : List α} (h : F.PathTo root root a l) :
    F.AtDepth root a l.length := by
  induction h with
  | top => exact .root
  | step hne hp _ ih => exact .step hne hp ih

theorem PathTo.present_of_mem {l : List α} {x : α} (h : F.PathTo root c a l) (hx : x ∈ l) :
    F.Present x := by
  induction h with
  | top => exact nomatch hx
  | step _ parent _ ih =>
    rcases List.mem_cons.mp hx with rfl | hx
    · exact present_of_parent parent
    · exact ih hx

/-- A path depends on the pointers of its nodes only. -/
theorem PathTo.congr {l : List α} (h : F.PathTo root c a l)
    (hparent : ∀ x ∈ l, F'.parent x = F.parent x) : F'.PathTo root c a l := by
  induction h with
  | top => exact .top
  | step below parent _ ih =>
    exact .step below ((hparent _ List.mem_cons_self).trans parent)
      (ih fun x hx => hparent x (List.mem_cons_of_mem _ hx))

/-- Each node of a path is the parent of the one before it. -/
theorem PathTo.parent_of_mem_zip {l : List α} {x y : α} (h : F.PathTo root c a l)
    (hxy : (x, y) ∈ l.zip l.tail) : F.parent x = some y := by
  induction h with
  | top => exact nomatch hxy
  | step _ parent rest ih =>
    cases rest with
    | top => exact nomatch hxy
    | step below' parent' rest' =>
      rcases List.mem_cons.mp hxy with hxy | hxy
      · cases hxy
        exact parent
      · exact ih hxy

theorem Fork.symm {up down rest : List α} (h : F.Fork root a b c up down rest) :
    F.Fork root b a c down up rest :=
  ⟨h.right, h.left, h.down_off, h.up_off⟩

/-- Nothing lies between a node and the meeting point only if it is the meeting point. -/
theorem Fork.eq_of_up_nil {down rest : List α} (h : F.Fork root a b c [] down rest) : a = c := by
  obtain ⟨_, hrest⟩ := h.left.head_eq
  exact (List.cons.inj hrest).1.symm

theorem Fork.up_eq_cons {up down rest : List α} (h : F.Fork root a b c up down rest) (hup : up ≠ []) :
    ∃ tail, up = a :: tail := by
  obtain ⟨_, hrest⟩ := h.left.head_eq
  cases up with
  | nil => exact absurd rfl hup
  | cons x tail =>
    obtain rfl := (List.cons.inj hrest).1
    exact ⟨tail, rfl⟩

namespace WellFormed

variable [DecidableEq α]

theorem root_present (h : F.WellFormed root) : F.Present root :=
  present_of_parent h.root_parent

theorem mem_children (h : F.WellFormed root) (hp : F.Present p) :
    c ∈ F.children p ↔ c ≠ root ∧ F.parent c = some p := by
  rw [← List.one_le_count_iff, h.count_children hp]
  split <;> simp_all

theorem child_iff (h : F.WellFormed root) :
    F.Child p c ↔ c ≠ root ∧ F.parent c = some p :=
  ⟨fun hc => (h.mem_children hc.1).mp hc.2,
    fun hc => ⟨h.parent_present hc.2, (h.mem_children (h.parent_present hc.2)).mpr hc⟩⟩

theorem nodup_children (h : F.WellFormed root) (hp : F.Present p) : (F.children p).Nodup :=
  List.nodup_iff_count_le_one.mpr fun c => by
    rw [h.count_children hp]
    split <;> omega

/-- A child lies one step further from the root. -/
theorem child_atDepth (h : F.WellFormed root) (hp : F.AtDepth root p n) (hc : F.Child p c) :
    F.AtDepth root c (n + 1) :=
  .step (h.child_iff.mp hc).1 (h.child_iff.mp hc).2 hp

/-- Only the root is its own parent. -/
theorem parent_ne (h : F.WellFormed root) (hne : a ≠ root) (hp : F.parent a = some p) :
    p ≠ a := by
  rintro rfl
  obtain ⟨n, hn⟩ := h.rooted (present_of_parent hp)
  have := hn.unique (.step hne hp hn)
  omega

/-- What lies below a node lies no less deep. -/
theorem below_atDepth (h : F.WellFormed root) (hab : F.Below a b) (ha : F.AtDepth root a m) :
    ∃ k, F.AtDepth root b (m + k) := by
  induction hab with
  | refl => exact ⟨0, ha⟩
  | tail _ hbc ih =>
    obtain ⟨k, hk⟩ := ih
    exact ⟨k + 1, h.child_atDepth hk hbc⟩

/-- The last step down to a node other than the top comes from its parent. -/
theorem below_parent (h : F.WellFormed root) (hab : F.Below a b) (hne : b ≠ a)
    (hp : F.parent b = some p) : F.Below a p := by
  rcases Relation.ReflTransGen.cases_tail hab with rfl | ⟨q, haq, hqb⟩
  · exact absurd rfl hne
  · rw [(h.child_iff.mp hqb).2] at hp
    cases hp
    exact haq

/-- A parent is not below its child. -/
theorem not_below_child (h : F.WellFormed root) (hc : F.Child p c) : ¬ F.Below c p := by
  intro hbelow
  obtain ⟨n, hn⟩ := h.rooted hc.1
  obtain ⟨k, hk⟩ := h.below_atDepth hbelow (h.child_atDepth hn hc)
  have := hn.unique hk
  omega

theorem below_antisymm (h : F.WellFormed root) (hab : F.Below a b) (hba : F.Below b a) :
    a = b := by
  rcases Relation.ReflTransGen.cases_tail hab with rfl | ⟨q, haq, hqb⟩
  · rfl
  · exact absurd (hba.trans haq) (h.not_below_child hqb)

/-- What lies below two children of one node lies below the same child. -/
theorem below_sibling (h : F.WellFormed root) (hb : F.Child p b) (hc : F.Child p c)
    (hba : F.Below b a) (hca : F.Below c a) : b = c := by
  -- the parent would lie below one of them
  have hclash : ∀ {x y}, F.Child p x → F.Child p y → F.Below x y → x = y := by
    intro x y hx hy hxy
    by_contra hne
    exact h.not_below_child hx (h.below_parent hxy (Ne.symm hne) (h.child_iff.mp hy).2)
  induction hba with
  | refl => exact (hclash hc hb hca).symm
  | @tail q a hbq hqa ih =>
    by_cases hac : a = c
    · subst hac
      exact hclash hb hc (hbq.tail hqa)
    · exact ih (h.below_parent hca hac (h.child_iff.mp hqa).2)

theorem below_of_mem_chain (h : F.WellFormed root) {l : List α} {x : α} (hl : F.Chain root a l)
    (hx : x ∈ l) : F.Below x a := by
  induction hl with
  | root => rw [List.mem_singleton.mp hx]; exact .refl
  | step below parent _ ih =>
    rcases List.mem_cons.mp hx with rfl | hx
    · exact .refl
    · exact (ih hx).tail (h.child_iff.mpr ⟨below, parent⟩)

theorem mem_chain_iff (h : F.WellFormed root) {l : List α} {x : α} (hl : F.Chain root a l) :
    x ∈ l ↔ F.Below x a := by
  refine ⟨h.below_of_mem_chain hl, fun hx => ?_⟩
  induction hl with
  | root =>
    rcases Relation.ReflTransGen.cases_tail hx with rfl | ⟨q, -, hq⟩
    · exact List.mem_singleton.mpr rfl
    · exact absurd rfl (h.child_iff.mp hq).1
  | @step a p l below parent rest ih =>
    by_cases hne : a = x
    · rw [hne]
      exact List.mem_cons_self
    · exact List.mem_cons_of_mem a (ih (h.below_parent hx hne parent))

theorem nodup_chain (h : F.WellFormed root) {l : List α} (hl : F.Chain root a l) : l.Nodup := by
  induction hl with
  | root => exact List.nodup_singleton root
  | @step a p l below parent rest ih =>
    refine List.nodup_cons.mpr ⟨fun hmem => ?_, ih⟩
    exact h.not_below_child (h.child_iff.mpr ⟨below, parent⟩) (h.below_of_mem_chain rest hmem)

/-- Two chains run together from the first node on that they share. -/
theorem exists_fork (h : F.WellFormed root) {la lb : List α} (ha : F.Chain root a la)
    (hb : F.Chain root b lb) : ∃ c up down rest, la = up ++ c :: rest ∧ lb = down ++ c :: rest ∧
      F.Fork root a b c up down rest := by
  obtain ⟨c, hfind⟩ : ∃ c, lb.find? (fun x => decide (x ∈ la)) = some c :=
    Option.isSome_iff_exists.mp
      (List.find?_isSome.mpr ⟨root, hb.root_mem, decide_eq_true ha.root_mem⟩)
  obtain ⟨hc, down, rest, hlb, hdown⟩ := List.find?_eq_some_iff_append.mp hfind
  obtain ⟨up, rest', hla⟩ := List.append_of_mem (of_decide_eq_true hc)
  obtain rfl := (List.cons.inj ((hb.split hlb).1.unique (ha.split hla).1)).2
  subst hla hlb
  have hdown' : ∀ x ∈ down, x ∉ up ++ c :: rest := fun x hx => by simpa using hdown x hx
  refine ⟨c, up, down, rest, rfl, rfl, ha, hb, fun x hx hmem => ?_, hdown'⟩
  rcases List.mem_append.mp hmem with hx' | hx'
  · exact hdown' x hx' (List.mem_append_left _ hx)
  · exact (List.nodup_append.mp (h.nodup_chain ha)).2.2 x hx x hx' rfl

/-- The chains of two nodes meet at their lowest common node. -/
theorem fork_lowestCommon (h : F.WellFormed root) {up down rest : List α}
    (hfork : F.Fork root a b c up down rest) : F.LowestCommon a b c := by
  refine ⟨h.below_of_mem_chain hfork.left (List.mem_append_right up List.mem_cons_self),
    h.below_of_mem_chain hfork.right (List.mem_append_right down List.mem_cons_self),
    fun d hda hdb => ?_⟩
  have hmem := (h.mem_chain_iff hfork.right).mpr hdb
  rcases List.mem_append.mp hmem with hd | hd
  · exact absurd ((h.mem_chain_iff hfork.left).mpr hda) (hfork.down_off d hd)
  · exact h.below_of_mem_chain (hfork.right.split rfl).1 hd

/-! ## Operations -/

/-- Listing the same children in another order. -/
theorem reorder (h : F.WellFormed root) (hparent : ∀ x, F'.parent x = F.parent x)
    (hcount : ∀ x, F.Present x → ∀ y, (F'.children x).count y = (F.children x).count y) :
    F'.WellFormed root where
  root_parent := by rw [hparent, h.root_parent]
  parent_present {a p} hp := by
    rw [hparent] at hp
    rw [Present, hparent]
    exact h.parent_present hp
  count_children {p} hp c := by
    rw [Present, hparent] at hp
    rw [hcount p hp, h.count_children hp, hparent]
  rooted {a} ha := by
    rw [Present, hparent] at ha
    obtain ⟨n, hn⟩ := h.rooted ha
    refine ⟨n, ?_⟩
    induction hn with
    | root => exact .root
    | step hne hp _ ih => exact .step hne (by rw [hparent, hp]) (ih (h.parent_present hp))

/-- Adding a node without children. -/
theorem insertLeaf (h : F.WellFormed root) (hnew : ¬ F.Present c) (hp : F.Present p)
    (hparent : ∀ x, F'.parent x = if x = c then some p else F.parent x)
    (hleaf : F'.children c = [])
    (hcount : ∀ x, F.Present x → ∀ y, (F'.children x).count y =
      (F.children x).count y + if x = p ∧ y = c then 1 else 0) :
    F'.WellFormed root := by
  have hne : root ≠ c := fun heq => hnew (heq ▸ h.root_present)
  have hpc : p ≠ c := fun heq => hnew (heq ▸ hp)
  have hnone : F.parent c = none := not_not.mp hnew
  have hold : ∀ {x}, F.Present x → F'.parent x = F.parent x := fun {x} hx => by
    rw [hparent, if_neg fun heq : x = c => hnew (heq ▸ hx)]
  have hpresent : ∀ {x}, F.Present x → F'.Present x := fun {x} hx => by
    rw [Present, hold hx]
    exact hx
  have hdepth : ∀ {x n}, F.AtDepth root x n → F'.AtDepth root x n := fun {x n} hx => by
    induction hx with
    | root => exact .root
    | step hne hp _ ih => exact .step hne (by rw [hold (present_of_parent hp), hp]) ih
  refine ⟨by rw [hold h.root_present, h.root_parent], fun {x q} hq => ?_, fun {q} hq y => ?_,
    fun {x} hx => ?_⟩
  · by_cases hxc : x = c
    · rw [hparent, if_pos hxc] at hq
      cases hq
      exact hpresent hp
    · rw [hparent, if_neg hxc] at hq
      exact hpresent (h.parent_present hq)
  · by_cases hqc : q = c
    · subst hqc
      rw [hleaf, List.count_nil, eq_comm, if_neg]
      rintro ⟨-, hy⟩
      by_cases hyq : y = q
      · rw [hparent, if_pos hyq] at hy
        exact hpc (Option.some.inj hy)
      · rw [hparent, if_neg hyq] at hy
        exact hnew (h.parent_present hy)
    · have hq : F.Present q := by
        rw [Present, hparent, if_neg hqc] at hq
        exact hq
      rw [hcount q hq, h.count_children hq, hparent]
      by_cases hyc : y = c
      · subst hyc
        simp [hnone, Ne.symm hne, eq_comm]
      · simp [hyc]
  · by_cases hxc : x = c
    · obtain ⟨n, hn⟩ := h.rooted hp
      exact ⟨n + 1, .step (hxc ▸ Ne.symm hne) (by rw [hparent, if_pos hxc]) (hdepth hn)⟩
    · rw [Present, hparent, if_neg hxc] at hx
      obtain ⟨n, hn⟩ := h.rooted hx
      exact ⟨n, hdepth hn⟩

/-- Hanging a node with all that is below it under another parent. -/
theorem move (h : F.WellFormed root) (hc : F.Present c) (hroot : c ≠ root) (hp : F.Present p)
    (hbelow : ¬ F.Below c p)
    (hparent : ∀ x, F'.parent x = if x = c then some p else F.parent x)
    (hcount : ∀ x, F.Present x → ∀ y, (F'.children x).count y =
      if y = c then (if x = p then 1 else 0) else (F.children x).count y) :
    F'.WellFormed root := by
  have hpresent : ∀ {x}, F'.Present x ↔ F.Present x := fun {x} => by
    rw [Present, hparent]
    split
    · next heq => exact iff_of_true (Option.some_ne_none p) (heq ▸ hc)
    · rfl
  have hdepth : ∀ {x n}, F.AtDepth root x n → ¬ F.Below c x → F'.AtDepth root x n :=
    fun {x n} hx hout => by
      induction hx with
      | root => exact .root
      | @step x q n hne hq _ ih =>
        have hxc : x ≠ c := fun heq => hout (heq ▸ .refl)
        have hchild : F.Child q x := h.child_iff.mpr ⟨hne, hq⟩
        exact .step hne (by rw [hparent, if_neg hxc, hq]) (ih fun hq => hout (hq.tail hchild))
  refine ⟨by rw [hparent, if_neg hroot.symm, h.root_parent], fun {x q} hq => ?_, fun {q} hq y => ?_,
    fun {x} hx => ?_⟩
  · rw [hparent] at hq
    split at hq
    · cases hq
      exact hpresent.mpr hp
    · exact hpresent.mpr (h.parent_present hq)
  · have hq := hpresent.mp hq
    rw [hcount q hq, hparent]
    split
    · next heq =>
      subst heq
      simp [hroot, eq_comm]
    · exact h.count_children hq y
  · obtain ⟨n, hn⟩ := h.rooted (hpresent.mp hx)
    obtain ⟨m, hm⟩ := h.rooted hp
    have hm := hdepth hm hbelow
    clear hx
    induction hn with
    | root => exact ⟨0, .root⟩
    | @step x q n hne hq _ ih =>
      by_cases hxc : x = c
      · exact ⟨m + 1, .step hne (by rw [hparent, if_pos hxc]) hm⟩
      · obtain ⟨k, hk⟩ := ih
        exact ⟨k + 1, .step hne (by rw [hparent, if_neg hxc, hq]) hk⟩

/-- Removing a set of nodes that contains what is below its members. -/
theorem prune (h : F.WellFormed root) (removed : α → Prop) [DecidablePred removed]
    (hroot : ¬ removed root) (hclosed : ∀ {x y}, removed x → F.Child x y → removed y)
    (hparent : ∀ x, F'.parent x = if removed x then none else F.parent x)
    (hcount : ∀ x, F.Present x → ¬ removed x → ∀ y, (F'.children x).count y =
      if removed y then 0 else (F.children x).count y) :
    F'.WellFormed root := by
  have hpresent : ∀ {x}, F'.Present x ↔ ¬ removed x ∧ F.Present x := fun {x} => by
    rw [Present, hparent]
    split <;> simp_all [Present]
  have hup : ∀ {x q}, x ≠ root → ¬ removed x → F.parent x = some q → ¬ removed q :=
    fun hne hx hq hrem => hx (hclosed hrem (h.child_iff.mpr ⟨hne, hq⟩))
  refine ⟨by rw [hparent, if_neg hroot, h.root_parent], fun {x q} hq => ?_, fun {q} hq y => ?_,
    fun {x} hx => ?_⟩
  · rw [hparent] at hq
    split at hq
    · cases hq
    · next hx =>
      refine hpresent.mpr ⟨?_, h.parent_present hq⟩
      by_cases hne : x = root
      · rw [hne, h.root_parent] at hq
        cases hq
        exact hroot
      · exact hup hne hx hq
  · obtain ⟨hkept, hq⟩ := hpresent.mp hq
    rw [hcount q hq hkept, hparent, h.count_children hq]
    split <;> simp
  · obtain ⟨hkept, hx⟩ := hpresent.mp hx
    obtain ⟨n, hn⟩ := h.rooted hx
    refine ⟨n, ?_⟩
    clear hx
    induction hn with
    | root => exact .root
    | step hne hq _ ih =>
      have hkept' := hup hne hkept hq
      exact .step hne (by rw [hparent, if_neg hkept, hq])
        (ih (hpresent.mpr ⟨hkept', h.parent_present hq⟩) hkept')

end WellFormed

end Links

end Forest

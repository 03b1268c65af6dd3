import Snippet.Proofs.Conversion.Invariants
import Snippet.Proofs.Store.Lasting

/-!
Conversion makes no cycles. A node is added when the nodes that it refers to are there, and a position
gets its primary node when that node is done; so a mirror in the body of a placeholder never refers to
the placeholder. From then on users fill in fields, and the references of the nodes stay as they are. The
one thing that can close a cycle is a function of the host that builds a dynamic node with a node above it.
-/

namespace Snippet

namespace Store

/-- What holds of a node holds of the nodes it refers to, and of any node that refers to such nodes only and
is not for the host to build. It goes on holding when other nodes are added. -/
structure Hereditary (P : Store → NodeId → Prop) : Prop where
  edge : ∀ {s id n}, P s id → s.node? id = some n → ∀ x ∈ n.edges, P s x
  of_edges : ∀ {s id n}, s.node? id = some n →
    (∀ make slot, n ≠ .dynamic (some (.host make)) slot) → (∀ x ∈ n.edges, P s x) → P s id
  keeps : ∀ {s t id}, P s id → s.Keeps t → P t id

theorem hereditary_acyclic : Hereditary Acyclic where
  edge h hn _ hx := h.step hn hx
  of_edges hn _ := .of_edges hn
  keeps := Acyclic.keeps

theorem hereditary_staysAcyclic : Hereditary StaysAcyclic where
  edge h hn _ hx := h.of_reaches (.single (.inl ⟨_, hn, hx⟩))
  of_edges := .of_edges
  keeps := StaysAcyclic.keeps

theorem Hereditary.add {P : Store → NodeId → Prop} (hP : Hereditary P) {s : Store} {n : Node}
    (hown : ∀ make slot, n ≠ .dynamic (some (.host make)) slot) (hn : ∀ x ∈ n.edges, P s x)
    (p : Option Int) : P (s.add n p).2 s.size :=
  hP.of_edges (by rw [node?_add, if_pos rfl]) hown fun x hx => hP.keeps (hn x hx) (keeps_add s n p)

end Store

namespace Conversion

/-- All nodes from `base` on have the property, and so has every node that is referred to. -/
def having (P : Store → NodeId → Prop) (base : NodeId) : Upkeep where
  holds s := ∀ id : Nat, base ≤ id → id < s.size → P s id
  refs := P
  made := P
  units := P
  rows := P

section Having

variable {P : Store → NodeId → Prop} (hP : Store.Hereditary P) {base : NodeId} {s t : Store} {n : Node}

include hP

theorem having_next (hk : s.Keeps t) (ht : (having P base).holds t) : (having P base).Next s t where
  holds := ht
  refs _ h := hP.keeps h hk
  made _ h := hP.keeps h hk
  units _ h := hP.keeps h hk
  rows _ h := hP.keeps h hk

theorem having_kept (hk : s.Keeps t) (hsize : t.size = s.size) (h : (having P base).holds s) :
    (having P base).Next s t :=
  having_next hP hk fun id hb hid => hP.keeps (h id hb (hsize ▸ hid)) hk

theorem having_added (h : (having P base).holds s)
    (hown : ∀ make slot, n ≠ .dynamic (some (.host make)) slot) (hn : ∀ x ∈ n.edges, P s x)
    (p : Option Int) : (having P base).Next s (s.add n p).2 ∧ P (s.add n p).2 s.size := by
  have hk := Store.keeps_add s n p
  refine ⟨having_next hP hk fun id hb hid => ?_, hP.add hown hn p⟩
  rw [Store.size_add] at hid
  rcases Nat.lt_succ_iff_lt_or_eq.mp hid with hlt | rfl
  · exact hP.keeps (h id hb hlt) hk
  · exact hP.add hown hn p

/-- A dynamic node refers to the body, and to the empty slot before it. -/
theorem having_flattened (h : (having P base).holds s) {group : NodeId} (hg : P s group)
    (position : Int) :
    let r := s.flattenStatic position group
    (having P base).Next s r.2 ∧ P r.2 r.1 := by
  obtain ⟨hslot, hempty⟩ := having_added hP (n := .vacant) h (by simp) (by simp [Node.edges]) none
  have hdynamic := having_added hP (n := .dynamic (some (.body group)) s.size) hslot.holds (by simp)
    (fun x hx => by
      simp only [Node.edges, List.mem_cons, List.not_mem_nil, or_false] at hx
      rcases hx with rfl | rfl
      · exact hslot.refs x hg
      · exact hempty)
    (some position)
  refine ⟨having_next hP ?_ hdynamic.1.holds, hdynamic.2⟩
  exact (Store.keeps_add s .vacant none).trans (Store.keeps_add _ _ _)

theorem kept_having : (having P base).Kept Assembler.embed where
  madeRefs _ hid := hid
  madeUnits _ hid := hid
  rowRefs _ hid := hid
  spliced {s id} _ hid x hx := by
    simp only [spliced] at hx
    split at hx
    · next members hn => exact hP.edge hid hn x hx
    · exact List.mem_singleton.mp hx ▸ hid
  added p h hn := having_added hP h (by rintro make slot rfl; cases hn) hn.rename.2 p
  compacted {s ids} h _ := having_kept hP (Store.keeps_compact s ids) (Store.size_compact s ids) h
  classified {s group} p h hg := by
    simp only [Store.classify]
    split
    · have hk := Store.keeps_setPosition s group (some p)
      exact ⟨having_kept hP hk (Store.size_setPosition _ _ _) h, hP.keeps hg hk⟩
    · exact having_flattened hP h hg p

/-- What holds of the nodes that stand ready and of the primary nodes holds of every node that is added or
had it before, however the conversion ends. -/
theorem convert_having {settings : Settings} (hpolicy : settings.policy.assembler = Assembler.embed)
    (e : Element) (w : Workspace) (hsupplied : ∀ id ∈ e.supplied, P w.store id)
    (hregistered : ∀ p id, w.registry.lookup p = some id → P w.store id) :
    let s := (last (convert settings e w)).store
    ∀ id : Nat, (w.store.size ≤ id ∧ id < s.size) ∨ P w.store id → P s id := by
  intro s id hid
  have hstart : (having P w.store.size).Holds w :=
    ⟨fun x hb hx => absurd hx (Nat.not_lt_of_le hb), hregistered⟩
  have hU : (having P w.store.size).Kept settings.policy.assembler := hpolicy ▸ kept_having hP
  have hend := (hU.convert e hstart hsupplied).last
  rcases hid with ⟨hb, hlt⟩ | hold
  · exact hend.store id hb hlt
  · exact hP.keeps hold
      (convert_keeps (Assembler.keeping_of_eq hpolicy) e (Store.Keeps.refl w.store)).last

end Having

/-- Where there is no cycle below the nodes that stand ready and below the primary nodes at the start,
there is none below any node that is added or was without one, however the conversion ends. There is none
either whatever is done with the nodes then, if no function of the host builds a node with one above it. So
all ways down through the references end, and the bound on the depth of a recursion along them is never
felt. -/
theorem convert_acyclic {settings : Settings} (hpolicy : settings.policy.assembler = Assembler.embed)
    (e : Element) (w : Workspace) (hsupplied : ∀ id ∈ e.supplied, w.store.Acyclic id)
    (hregistered : ∀ p id, w.registry.lookup p = some id → w.store.Acyclic id) :
    let s := (last (convert settings e w)).store
    (∀ id : Nat, (w.store.size ≤ id ∧ id < s.size) ∨ w.store.Acyclic id → s.Acyclic id) ∧
    (w.store.OffersDescend → ∀ actions : List Action,
      let t := actions.foldl Action.perform s
      ∀ id : Nat, (w.store.size ≤ id ∧ id < t.size) ∨ w.store.Acyclic id →
        t.Acyclic id ∧ Acc (fun b a => t.Refers a b) id ∧
          ∀ scope fuel, t.size < fuel →
            t.isInteractiveWith fuel id = t.isInteractive id ∧
              t.evaluateWith scope fuel id = t.evaluateStatic scope id ∧
                Store.renderWith scope fuel id t = Store.render scope id t) := by
  intro s
  refine ⟨convert_having Store.hereditary_acyclic hpolicy e w hsupplied hregistered,
    fun hoffers actions => ?_⟩
  intro t id hid
  have hnarrows : s.Narrows t := Action.foldl_narrows s actions
  have hstays : t.StaysAcyclic id := by
    refine hnarrows.staysAcyclic ?_
    refine convert_having Store.hereditary_staysAcyclic hpolicy e w
      (fun x hx => hoffers.staysAcyclic (hsupplied x hx))
      (fun p x hx => hoffers.staysAcyclic (hregistered p x hx)) id ?_
    rw [hnarrows.size] at hid
    exact hid.imp_right hoffers.staysAcyclic
  have hacyclic := hstays.acyclic
  exact ⟨hacyclic, hacyclic.acc, fun scope fuel hf =>
    ⟨hacyclic.isInteractiveWith_eq hf, hacyclic.evaluateWith_eq scope hf,
      hstays.grounded.renderWith_eq (Nat.le_of_lt hf)⟩⟩

/-- A placeholder with its own position in the body of an inner one and behind it, beside a node that
stands ready and mirrors of a registered node and of the inner placeholder. -/
def repeating : Element :=
  .placeholder 1 none
    [.text "a ", .placeholder 2 none [.tabstop 1 none], .built 3, .tabstop 5 none, .tabstop 1 none,
      .tabstop 2 none]

/-- An insertion point, registered for a position, a group of it, and a node that the host builds with the
group. -/
def handed : Workspace :=
  ⟨⟨#[⟨.tabstop none none, some 5⟩, ⟨.group [0], none⟩, ⟨.vacant, none⟩,
    ⟨.dynamic (some (.host fun _ => .ok (.node 1))) 2, some 0⟩]⟩, [(5, 0)], none, []⟩

theorem handed_offersDescend : handed.store.OffersDescend := by
  refine Store.offersDescend_of_older (by decide) fun d slot x ho => ?_
  obtain ⟨-, make, scope, hd, hmake⟩ := ho
  have hdynamic : ∀ d < 4, ((handed.store.node? d).getD .vacant).typeName = "DynamicNode" → d = 3 := by
    decide
  obtain rfl := hdynamic d (Store.lt_size hd) (by rw [hd]; rfl)
  have hnode : handed.store.node? 3 = some (.dynamic (some (.host fun _ => .ok (.node 1))) 2) := rfl
  cases hnode.symm.trans hd
  cases hmake
  decide

/-- The node of the host's is built, so there is a reference that was not there before. -/
theorem convert_acyclic_repeating :
    let t := [Action.setText 0 (.text "b"), .render Scope.empty 10].foldl Action.perform
      (last (convert (Context.fresh Options.none).settings repeating handed)).store
    t.size = 11 ∧ t.Refers 3 1 ∧ t.Acyclic 10 ∧
      Store.renderWith Scope.empty 12 10 t = Store.render Scope.empty 10 t := by
  intro t
  have hhanded : ∀ id < 4, handed.store.Acyclic id :=
    fun id hid => Store.acyclic_of_older (by decide) hid
  have hsize : t.size = 11 := by decide +kernel
  have hpolicy : (Context.fresh Options.none).settings.policy.assembler = Assembler.embed := rfl
  have hacyclic := (convert_acyclic hpolicy repeating handed
    (fun id hid => by
      obtain rfl : id = 3 := by simpa [repeating, Element.supplied, Element.suppliedAll] using hid
      exact hhanded 3 (by decide))
    (fun p id hid => by
      rw [handed, List.lookup_cons] at hid
      split at hid
      · cases hid
        exact hhanded 0 (by decide)
      · cases hid)).2 handed_offersDescend
    [.setText 0 (.text "b"), .render Scope.empty 10] 10 (.inl ⟨by decide, by rw [hsize]; decide⟩)
  have hfuel : t.size < 12 := by rw [hsize]; decide
  have hbound : (t.node? 3).map Node.edges = some [1] := by decide +kernel
  obtain ⟨n, hn, hedges⟩ := Option.map_eq_some_iff.mp hbound
  exact ⟨hsize, ⟨n, hn, by simp [hedges]⟩, hacyclic.1, (hacyclic.2.2 Scope.empty 12 hfuel).2.2⟩

/-- A group of a node that the host builds with the group. -/
def returning : Store :=
  ⟨#[⟨.vacant, none⟩, ⟨.dynamic (some (.host fun _ => .ok (.node 2))) 0, some 0⟩,
    ⟨.group [1], none⟩]⟩

/-- A function of the host can close a cycle, so what such functions give does matter. -/
theorem returning_cyclic :
    returning.Acyclic 2 ∧ ¬((Action.render Scope.empty 2).perform returning).Acyclic 2 := by
  refine ⟨Store.acyclic_of_older (by decide) (by decide), fun h => ?_⟩
  have hgroup : ((Action.render Scope.empty 2).perform returning).Refers 2 1 :=
    ⟨.group [1], rfl, by simp [Node.edges]⟩
  have hback : ((Action.render Scope.empty 2).perform returning).Refers 1 2 :=
    ⟨.bound 2, rfl, by simp [Node.edges]⟩
  exact h.no_cycle 2 .refl (.tail (.single hgroup) hback)

end Conversion

end Snippet

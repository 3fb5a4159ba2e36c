import TreeDump.Proofs.Tree.Tagged

namespace TreeDump

namespace Span

/-- A span with its bounds in order has a length, which leads from its start to its stop. -/
theorem exists_length_of_ordered {s : Span} (hordered : s.Ordered) :
    ∃ length, s.length = .ok length ∧ s.start.toNat + length.toNat = s.stop.toNat ∧
      (s.isEmpty = true ↔ length = 0) := by
  have hle : s.start.toNat ≤ s.stop.toNat := UInt32.le_iff_toNat_le.mp hordered
  have hlength : (s.stop - s.start).toNat = s.stop.toNat - s.start.toNat :=
    UInt32.toNat_sub_of_le s.stop s.start hordered
  refine ⟨s.stop - s.start, if_pos hordered, by omega, ?_⟩
  rw [isEmpty, beq_iff_eq, ← UInt32.toNat_inj, ← UInt32.toNat_inj, hlength, UInt32.toNat_zero]
  omega

end Span

namespace NodeInfo

/-- The information of a node of the kind. A span may be missing, but it is not reversed. -/
structure Proper (kind : NodeKind) (info : NodeInfo) : Prop where
  kind_eq : info.kind = kind
  ordered : ∀ span, info.span = some span → span.Ordered

theorem proper_ofKind (kind : NodeKind) : (ofKind kind).Proper kind :=
  ⟨rfl, fun _ hspan => nomatch hspan⟩

theorem withSpan_of_le {start stop : UInt32} (hle : start ≤ stop) (info : NodeInfo) :
    info.withSpan start stop = .ok { info with span := some ⟨start, stop⟩ } := by
  rw [withSpan, Span.between?, if_pos hle]
  rfl

theorem withSpan_of_not_le {start stop : UInt32} (hnot : ¬ start ≤ stop) (info : NodeInfo) :
    info.withSpan start stop = .error .reversedSpan := by
  rw [withSpan, Span.between?, if_neg hnot]
  rfl

end NodeInfo

namespace Node

/-- The label of a header is the name of the kind that the node has by its contents. -/
theorem label_eq_name_variant (node : Node) : node.label = node.variant.name := by
  cases node <;> rfl

@[simp] theorem info_withInfo (info : NodeInfo) (node : Node) : (node.withInfo info).info = info := by
  cases node <;> rfl

@[simp] theorem variant_withInfo (info : NodeInfo) (node : Node) :
    (node.withInfo info).variant = node.variant := by
  cases node <;> rfl

@[simp] theorem children_withInfo (info : NodeInfo) (node : Node) :
    (node.withInfo info).children = node.children := by
  cases node <;> rfl

/-- All nodes of the tree are of the kinds that they store, and no span is reversed. -/
def Sound (node : Node) : Prop :=
  node.Everywhere fun visited => visited.info.Proper visited.variant

theorem sound_iff {node : Node} :
    node.Sound ↔ node.info.Proper node.variant ∧ ∀ child ∈ node.children, child.Sound :=
  everywhere_iff node

theorem Sound.tagged {node : Node} (hnode : node.Sound) : node.Tagged :=
  fun visited hvisited => (hnode visited hvisited).kind_eq

/-- A node that was just made of sound children is sound, since it has no span. -/
theorem sound_of_ofKind {node : Node} (hinfo : node.info = .ofKind node.variant)
    (hchildren : ∀ child ∈ node.children, child.Sound) : node.Sound := by
  apply sound_iff.mpr
  rw [hinfo]
  exact ⟨NodeInfo.proper_ofKind node.variant, hchildren⟩

theorem sound_of_childless {node : Node} (hinfo : node.info = .ofKind node.variant)
    (hnone : node.children = []) : node.Sound := by
  apply sound_of_ofKind hinfo
  rw [hnone]
  exact List.forall_mem_nil _

/-- One child more leaves a tree sound if the child is sound. -/
theorem Sound.append {node child grown : Node} (hnode : node.Sound) (hchild : child.Sound)
    (hinfo : grown.info = node.info) (hvariant : grown.variant = node.variant)
    (hchildren : grown.children = node.children ++ [child]) : grown.Sound := by
  obtain ⟨hproper, hbelow⟩ := sound_iff.mp hnode
  apply sound_iff.mpr
  rw [hinfo, hvariant, hchildren, List.forall_mem_append, List.forall_mem_singleton]
  exact ⟨hproper, hbelow, hchild⟩

theorem withSpan_of_le {start stop : UInt32} (hle : start ≤ stop) (node : Node) :
    node.withSpan start stop =
      .ok (node.withInfo { node.info with span := some ⟨start, stop⟩ }) := by
  rw [withSpan_eq_map_withInfo, NodeInfo.withSpan_of_le hle]
  rfl

theorem withSpan_of_not_le {start stop : UInt32} (hnot : ¬ start ≤ stop) (node : Node) :
    node.withSpan start stop = .error .reversedSpan := by
  rw [withSpan_eq_map_withInfo, NodeInfo.withSpan_of_not_le hnot]
  rfl

/-- The span of a node may be given before its children are there, afterwards, and more than once. -/
theorem Sound.withSpan {start stop : UInt32} {node spanned : Node} (hnode : node.Sound)
    (hspan : node.withSpan start stop = .ok spanned) : spanned.Sound := by
  by_cases hle : start ≤ stop
  · rw [withSpan_of_le hle] at hspan
    cases hspan
    obtain ⟨hproper, hbelow⟩ := sound_iff.mp hnode
    apply sound_iff.mpr
    rw [info_withInfo, variant_withInfo, children_withInfo]
    refine ⟨⟨hproper.kind_eq, ?_⟩, hbelow⟩
    intro span hsome
    cases hsome
    exact hle
  · rw [withSpan_of_not_le hle] at hspan
    cases hspan

end Node

end TreeDump

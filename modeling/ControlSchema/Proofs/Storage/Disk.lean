import ControlSchema.Proofs.Number.Digits
import ControlSchema.Proofs.Storage.Place
import ControlSchema.Proofs.Table

/-!
# Sound disks

What a change leaves at each place, and what no change breaks: everything stands in
a directory, under a name, and no place has two entries. A disk is read through the
node at a place, so two disks with the same nodes can be told apart only by the
order in which directories are listed.
-/

namespace ControlSchema

namespace Disk

variable {d : Disk}

/-! ## Nodes -/

theorem node?_nil (d : Disk) : d.node? [] = some .directory := rfl

theorem node?_of_ne_nil (d : Disk) {place : Trail} (h : place ≠ []) :
    d.node? place = d.nodes.get? place :=
  if_neg fun hempty => h (List.isEmpty_iff.1 hempty)

theorem concat_ne_nil (place : Trail) (name : String) : place ++ [name] ≠ [] := by simp

theorem node?_put {place : Trail} (h : place ≠ []) (node : Node) (other : Trail) :
    (d.put place node).node? other = if other = place then some node else d.node? other := by
  by_cases hother : other = []
  · rw [hother, node?_nil, if_neg h.symm, node?_nil]
  · rw [node?_of_ne_nil _ hother, node?_of_ne_nil _ hother, put, Table.get?_put]
    exact if_congr beq_iff_eq rfl rfl

theorem mem_namesAt {place : Trail} {name : String} :
    name ∈ d.namesAt place ↔ d.node? (place ++ [name]) ≠ none := by
  rw [node?_of_ne_nil _ (concat_ne_nil place name), Table.get?_ne_none_iff, namesAt,
    List.mem_filterMap]
  constructor
  · rintro ⟨⟨other, node⟩, hmem, hname⟩
    simp only at hname
    split at hname
    · rename_i hbelow
      rw [Bool.and_eq_true, beq_iff_eq] at hbelow
      obtain ⟨front, rfl⟩ := List.getLast?_eq_some_iff.1 hname
      rw [List.dropLast_concat] at hbelow
      rw [← hbelow.2]
      exact List.mem_map.2 ⟨_, hmem, rfl⟩
    · cases hname
  · intro h
    obtain ⟨⟨other, node⟩, hmem, hother⟩ := List.mem_map.1 h
    refine ⟨_, hmem, ?_⟩
    obtain rfl : other = place ++ [name] := hother
    simp

/-- No change breaks this: names are names, everything stands in a directory, and no
place has two entries. -/
structure Sound (d : Disk) : Prop where
  nodup : d.nodes.keys.Nodup
  names : ∀ place ∈ d.nodes.keys, ∀ name ∈ place, IsName name
  parents : ∀ place name, d.node? (place ++ [name]) ≠ none → d.node? place = some .directory
  home : ∀ name ∈ d.home, IsName name

theorem nodup_namesAt (h : d.Sound) (place : Trail) : (d.namesAt place).Nodup := by
  let name? (other : Trail) : Option String :=
    if !other.isEmpty && other.dropLast == place then other.getLast? else none
  have hkeys : d.namesAt place = d.nodes.keys.filterMap name? := by
    rw [Table.keys, List.filterMap_map]
    rfl
  have hname {other : Trail} {name : String} (h : name? other = some name) :
      other = place ++ [name] := by
    simp only [name?] at h
    split at h
    · rename_i hbelow
      rw [Bool.and_eq_true, beq_iff_eq] at hbelow
      obtain ⟨front, rfl⟩ := List.getLast?_eq_some_iff.1 h
      rw [← hbelow.2, List.dropLast_concat]
    · cases h
  rw [hkeys]
  refine h.nodup.filterMap fun a b name ha hb => ?_
  rw [hname ha, hname hb]

theorem isName_of_mem_namesAt (h : d.Sound) {place : Trail} {name : String}
    (hname : name ∈ d.namesAt place) : IsName name := by
  have hkey := mem_namesAt.1 hname
  rw [node?_of_ne_nil _ (concat_ne_nil place name), Table.get?_ne_none_iff] at hkey
  exact h.names _ hkey name (List.mem_append_right place (List.mem_singleton_self name))

namespace Sound

theorem node?_eq_some_iff (h : d.Sound) {place : Trail} (hplace : place ≠ []) {node : Node} :
    d.node? place = some node ↔ (place, node) ∈ d.nodes := by
  rw [node?_of_ne_nil _ hplace, Table.get?_eq_some_iff h.nodup]

/-- Above everything there are directories. -/
theorem directory_of_within (h : d.Sound) {above place : Trail} (hplace : d.node? place ≠ none)
    (hwithin : above <+: place) (hne : above ≠ place) : d.node? above = some .directory := by
  obtain ⟨rest, rfl⟩ := hwithin
  induction rest using List.reverseRecOn with
  | nil => exact absurd (List.append_nil above).symm hne
  | append_singleton rest name ih =>
    rw [← List.append_assoc] at hplace
    have hparent := h.parents _ _ hplace
    by_cases hrest : above = above ++ rest
    · rwa [← hrest] at hparent
    · exact ih (by rw [hparent]; exact nofun) hrest

theorem node?_eq_none_of_within (h : d.Sound) {above place : Trail}
    (habove : d.node? above = none) (hwithin : above <+: place) : d.node? place = none := by
  by_contra hplace
  by_cases hne : above = place
  · exact hplace (hne ▸ habove)
  · rw [h.directory_of_within hplace hwithin hne] at habove
    cases habove

theorem isName_of_node? (h : d.Sound) {place : Trail} (hplace : d.node? place ≠ none) :
    ∀ name ∈ place, IsName name := by
  by_cases hempty : place = []
  · rw [hempty]
    exact List.forall_mem_nil _
  · rw [node?_of_ne_nil _ hempty, Table.get?_ne_none_iff] at hplace
    exact h.names place hplace

/-! ## Putting -/

theorem put (h : d.Sound) {place : Trail} {name : String} {node : Node} (hname : IsName name)
    (hplace : d.node? place = some .directory)
    (hnode : node = .directory ∨ d.node? (place ++ [name]) ≠ some .directory) :
    (d.put (place ++ [name]) node).Sound where
  nodup := Table.nodup_keys_put h.nodup _ _
  names := by
    intro other hother
    rcases Table.mem_keys_put.1 hother with hother | rfl
    · exact h.names other hother
    · exact fun n hn => (List.mem_append.1 hn).elim
        (h.isName_of_node? (by rw [hplace]; exact nofun) n)
        fun hlast => List.mem_singleton.1 hlast ▸ hname
  parents := by
    have hne := concat_ne_nil place name
    intro above n hexists
    rw [node?_put hne] at hexists ⊢
    by_cases hchild : above ++ [n] = place ++ [name]
    · obtain ⟨rfl, -⟩ := List.append_inj' hchild rfl
      rw [if_neg fun heq => by simpa using congrArg List.length heq]
      exact hplace
    · rw [if_neg hchild] at hexists
      have habove := h.parents above n hexists
      by_cases heq : above = place ++ [name]
      · rw [if_pos heq]
        rw [heq] at habove
        exact congrArg some (hnode.resolve_right fun hno => hno habove)
      · rw [if_neg heq]
        exact habove
  home := h.home

/-! ## Taking away -/

theorem mem_clear {place : Trail} {entry : Trail × Node} :
    entry ∈ (d.clear place).nodes ↔ entry ∈ d.nodes ∧ ¬ place <+: entry.1 := by
  rw [clear, List.mem_filter, Bool.not_eq_true', ← Bool.not_eq_true, List.isPrefixOf_iff_prefix]

theorem nodup_clear (h : d.Sound) (place : Trail) : (d.clear place).nodes.keys.Nodup :=
  (List.filter_sublist.map Prod.fst).nodup h.nodup

/-- What stands below a place is gone with it. -/
theorem node?_clear (h : d.Sound) (place other : Trail) : (d.clear place).node? other
    = if other ≠ [] ∧ place <+: other then none else d.node? other := by
  by_cases hother : other = []
  · rw [hother, node?_nil, if_neg fun h => h.1 rfl, node?_nil]
  · refine Option.ext fun node => ?_
    rw [node?_of_ne_nil _ hother, Table.get?_eq_some_iff (h.nodup_clear place), mem_clear]
    by_cases hwithin : place <+: other
    · rw [if_pos ⟨hother, hwithin⟩]
      exact ⟨fun hmem => absurd hwithin hmem.2, nofun⟩
    · rw [if_neg fun hand => hwithin hand.2, h.node?_eq_some_iff hother]
      exact ⟨And.left, fun hmem => ⟨hmem, hwithin⟩⟩

theorem clear (h : d.Sound) (place : Trail) : (d.clear place).Sound where
  nodup := h.nodup_clear place
  names := by
    intro other hother
    obtain ⟨entry, hmem, rfl⟩ := List.mem_map.1 hother
    exact h.names _ (List.mem_map.2 ⟨entry, (mem_clear.1 hmem).1, rfl⟩)
  parents := by
    intro above name hexists
    rw [h.node?_clear] at hexists ⊢
    have hkept : ¬ (above ++ [name] ≠ [] ∧ place <+: above ++ [name]) := fun hgone =>
      hexists (if_pos hgone)
    rw [if_neg hkept] at hexists
    rw [if_neg fun hgone => hkept ⟨concat_ne_nil above name,
      hgone.2.trans (List.prefix_append above [name])⟩]
    exact h.parents above name hexists
  home := h.home

/-! ## Moving -/

variable {source target : Trail}

/-- Where a place is when a source was moved to a target. -/
def moved (source target other : Trail) : Trail :=
  if source.isPrefixOf other then target ++ other.drop source.length else other

theorem moved_append (source target rest : Trail) :
    moved source target (source ++ rest) = target ++ rest := by
  rw [moved, List.isPrefixOf_iff_prefix.2 (List.prefix_append source rest), if_pos rfl,
    List.drop_left]

theorem moved_of_not_within {source other : Trail} (h : ¬ source <+: other) (target : Trail) :
    moved source target other = other :=
  if_neg fun hwithin => h (List.isPrefixOf_iff_prefix.1 hwithin)

theorem mem_move {entry : Trail × Node} : entry ∈ (d.move source target).nodes ↔
    ∃ other, (other, entry.2) ∈ d.nodes ∧ ¬ target <+: other ∧
      moved source target other = entry.1 := by
  rw [move, List.mem_map]
  constructor
  · rintro ⟨⟨other, node⟩, hmem, rfl⟩
    obtain ⟨hmem, hkept⟩ := mem_clear.1 hmem
    refine ⟨other, ?_, hkept, ?_⟩
    · simp only
      split <;> exact hmem
    · simp only [moved]
      split <;> rfl
  · rintro ⟨other, hmem, hkept, hmoved⟩
    refine ⟨(other, entry.2), mem_clear.2 ⟨hmem, hkept⟩, ?_⟩
    obtain ⟨place, node⟩ := entry
    simp only at hmoved ⊢
    rw [← hmoved, moved]
    split <;> rfl

theorem moved_eq_iff {other place : Trail} :
    moved source target other = place ↔
      (∃ rest, other = source ++ rest ∧ place = target ++ rest) ∨
      ¬ source <+: other ∧ other = place := by
  by_cases hwithin : source <+: other
  · obtain ⟨rest, rfl⟩ := hwithin
    rw [moved_append]
    constructor
    · rintro rfl
      exact Or.inl ⟨rest, rfl, rfl⟩
    · rintro (⟨rest', heq, rfl⟩ | ⟨hno, -⟩)
      · rw [List.append_cancel_left heq]
      · exact absurd (List.prefix_append source rest) hno
  · rw [moved_of_not_within hwithin]
    constructor
    · exact fun heq => Or.inr ⟨hwithin, heq⟩
    · rintro (⟨rest, rfl, -⟩ | ⟨-, heq⟩)
      · exact absurd (List.prefix_append source rest) hwithin
      · exact heq

theorem nodup_move (h : d.Sound) : (d.move source target).nodes.keys.Nodup := by
  have hkeys : (d.move source target).nodes.keys
      = (d.clear target).nodes.keys.map (moved source target) := by
    rw [move, Table.keys, Table.keys, List.map_map, List.map_map]
    refine List.map_congr_left fun entry _ => ?_
    simp only [Function.comp_apply, moved]
    split <;> rfl
  rw [hkeys]
  refine (h.nodup_clear target).map_on fun a ha b hb heq => ?_
  have hkept {place : Trail} (hplace : place ∈ (d.clear target).nodes.keys) :
      ¬ target <+: place := by
    obtain ⟨entry, hmem, rfl⟩ := List.mem_map.1 hplace
    exact (mem_clear.1 hmem).2
  rcases moved_eq_iff.1 heq with ⟨rest, rfl, hmoved⟩ | ⟨-, hmoved⟩
  · rcases moved_eq_iff.1 hmoved with ⟨rest', rfl, hrest⟩ | ⟨-, hplace⟩
    · rw [List.append_cancel_left hrest]
    · exact absurd (hplace ▸ List.prefix_append target rest) (hkept hb)
  · rcases moved_eq_iff.1 hmoved.symm with ⟨rest, -, hplace⟩ | ⟨-, hplace⟩
    · exact absurd (hplace ▸ List.prefix_append target rest) (hkept ha)
    · exact hplace.symm

section

variable (hsource : source ≠ []) (htarget : target ≠ []) (hbelow : ¬ source <+: target)
  (habove : ¬ target <+: source)
include hsource htarget hbelow habove

/-- What stood at the source and below it stands at the target, and nothing else
does. -/
theorem node?_move (h : d.Sound) (other : Trail) : (d.move source target).node? other
    = if target <+: other then d.node? (source ++ other.drop target.length)
      else if source <+: other then none else d.node? other := by
  by_cases hother : other = []
  · rw [hother, node?_nil, if_neg fun hp => htarget (List.prefix_nil.1 hp),
      if_neg fun hp => hsource (List.prefix_nil.1 hp), node?_nil]
  · refine Option.ext fun node => ?_
    rw [node?_of_ne_nil _ hother, Table.get?_eq_some_iff h.nodup_move, mem_move]
    simp only [moved_eq_iff]
    by_cases hwithin : target <+: other
    · obtain ⟨rest, rfl⟩ := hwithin
      have hne : source ++ rest ≠ [] := fun heq => hsource (List.append_eq_nil_iff.1 heq).1
      rw [if_pos (List.prefix_append target rest), List.drop_left, h.node?_eq_some_iff hne]
      constructor
      · rintro ⟨place, hmem, hkept, ⟨rest', rfl, heq⟩ | ⟨-, rfl⟩⟩
        · rwa [List.append_cancel_left heq]
        · exact absurd (List.prefix_append target rest) hkept
      · intro hmem
        refine ⟨_, hmem, fun hp => ?_, Or.inl ⟨rest, rfl, rfl⟩⟩
        rcases List.prefix_or_prefix_of_prefix hp (List.prefix_append source rest) with h | h
        · exact habove h
        · exact hbelow h
    · rw [if_neg hwithin]
      by_cases hgone : source <+: other
      · rw [if_pos hgone]
        refine ⟨?_, nofun⟩
        rintro ⟨place, -, -, ⟨rest, -, rfl⟩ | ⟨hno, rfl⟩⟩
        · exact absurd (List.prefix_append target rest) hwithin
        · exact absurd hgone hno
      · rw [if_neg hgone, h.node?_eq_some_iff hother]
        constructor
        · rintro ⟨place, hmem, -, ⟨rest, -, rfl⟩ | ⟨-, rfl⟩⟩
          · exact absurd (List.prefix_append target rest) hwithin
          · exact hmem
        · exact fun hmem => ⟨other, hmem, hwithin, Or.inr ⟨hgone, rfl⟩⟩

end

/-- A move into a directory. -/
theorem move (h : d.Sound) {place : Trail} {name : String} (hsource : source ≠ [])
    (hbelow : ¬ source <+: place ++ [name]) (habove : ¬ place ++ [name] <+: source)
    (hplace : d.node? place = some .directory) (hname : IsName name) :
    (d.move source (place ++ [name])).Sound where
  nodup := h.nodup_move
  names := by
    intro other hother
    obtain ⟨entry, hmem, rfl⟩ := List.mem_map.1 hother
    obtain ⟨before, hbefore, -, hmoved⟩ := mem_move.1 hmem
    have hnames := h.names before (List.mem_map.2 ⟨_, hbefore, rfl⟩)
    rcases moved_eq_iff.1 hmoved with ⟨rest, rfl, heq⟩ | ⟨-, rfl⟩
    · rw [heq]
      intro n hn
      rcases List.mem_append.1 hn with hn | hn
      · exact (List.mem_append.1 hn).elim
          (h.isName_of_node? (by rw [hplace]; exact nofun) n)
          fun hlast => List.mem_singleton.1 hlast ▸ hname
      · exact hnames n (List.mem_append_right source hn)
    · exact hnames
  parents := by
    have hnode := h.node?_move hsource (concat_ne_nil place name) hbelow habove
    intro above n hexists
    rw [hnode] at hexists ⊢
    by_cases hinside : place ++ [name] <+: above
    · obtain ⟨rest, rfl⟩ := hinside
      rw [List.append_assoc, if_pos (List.prefix_append _ _), List.drop_left, ← List.append_assoc]
        at hexists
      rw [if_pos (List.prefix_append _ _), List.drop_left]
      exact h.parents _ n hexists
    · rw [if_neg hinside]
      by_cases htop : above ++ [n] = place ++ [name]
      · obtain ⟨rfl, -⟩ := List.append_inj' htop rfl
        rw [if_neg fun hp => hbelow (hp.trans (List.prefix_append above [name]))]
        exact hplace
      · have houtside : ¬ place ++ [name] <+: above ++ [n] := fun hp =>
          (List.prefix_concat_iff.1 hp).elim (fun heq => htop heq.symm) hinside
        rw [if_neg houtside] at hexists
        by_cases hgone : source <+: above
        · exact absurd (if_pos (hgone.trans (List.prefix_append above [n]))) hexists
        · rw [if_neg hgone]
          by_cases hleaf : source <+: above ++ [n]
          · exact absurd (if_pos hleaf) hexists
          · rw [if_neg hleaf] at hexists
            exact h.parents above n hexists
  home := h.home

end Sound

/-! ## Empty disks -/

theorem nodup_empty (home : Trail) : (empty home).nodes.keys.Nodup := by
  have hkeys : (empty home).nodes.keys
      = (List.range home.length).map fun n => home.take (n + 1) := by
    rw [empty, Table.keys, List.map_map]
    rfl
  rw [hkeys]
  refine List.nodup_range.map_on fun m hm n hn heq => ?_
  have hlength := congrArg List.length heq
  rw [List.mem_range] at hm hn
  rw [List.length_take, List.length_take] at hlength
  omega

/-- A disk with one empty directory is sound. -/
theorem sound_empty {home : Trail} (h : ∀ name ∈ home, IsName name) : (empty home).Sound where
  nodup := nodup_empty home
  names := by
    intro place hplace name hname
    obtain ⟨entry, hentry, rfl⟩ := List.mem_map.1 hplace
    obtain ⟨n, -, rfl⟩ := List.mem_map.1 hentry
    exact h name (List.mem_of_mem_take hname)
  parents := by
    intro place name hexists
    rw [node?_of_ne_nil _ (concat_ne_nil place name), Table.get?_ne_none_iff] at hexists
    obtain ⟨entry, hentry, heq⟩ := List.mem_map.1 hexists
    obtain ⟨n, hn, rfl⟩ := List.mem_map.1 hentry
    rw [List.mem_range] at hn
    have hsplit : home.take n ++ [home[n]] = place ++ [name] :=
      (List.take_succ_eq_append_getElem hn).symm.trans heq
    obtain ⟨rfl, -⟩ := List.append_inj' hsplit rfl
    cases n with
    | zero => rfl
    | succ n =>
      have hne : home.take (n + 1) ≠ [] := fun hnil => by
        have hlength := congrArg List.length hnil
        rw [List.length_take, List.length_nil] at hlength
        omega
      rw [node?_of_ne_nil _ hne]
      exact Table.get?_of_mem (nodup_empty home)
        (List.mem_map.2 ⟨n, List.mem_range.2 (Nat.lt_of_succ_lt hn), rfl⟩)
  home := h

/-! ## Fresh names -/

theorem padded_injective (width : Nat) : Function.Injective (padded width) := by
  have hvalue (n : Nat) : Nat.ofDigitChars 10 (padded width n).toList 0 = n := by
    have hzeros : ∀ k, (List.replicate k '0').foldl (fun m c => 10 * m + (c.toNat - '0'.toNat)) 0
        = 0 := by
      intro k
      induction k with
      | zero => rfl
      | succ k ih => rw [List.replicate_succ, List.foldl_cons]; exact ih
    rw [padded, String.toList_ofList, Nat.ofDigitChars, List.foldl_append, hzeros]
    exact Nat.ofDigitChars_ten_toDigits
  intro m n h
  rw [← hvalue m, h, hvalue]

/-- The name of a temporary directory is numbered, and nothing stands under it. -/
theorem freshName_spec (d : Disk) (place : Trail) (beginning ending : String) :
    (∃ n, d.freshName place beginning ending = beginning ++ padded 8 n ++ ending) ∧
      d.node? (place ++ [d.freshName place beginning ending]) = none := by
  let candidate (n : Nat) : String := beginning ++ padded 8 n ++ ending
  have hinj : Function.Injective fun n => place ++ [candidate n] := by
    intro m n h
    have hnames : candidate m = candidate n := (List.append_inj' h rfl).2 |> List.cons.inj |>.1
    simp only [candidate, String.append_left_inj, String.append_right_inj] at hnames
    exact padded_injective 8 hnames
  have hfree : ∃ name ∈ (List.range (d.nodes.length + 1)).map candidate,
      (!d.nodes.has (place ++ [name])) = true := by
    by_contra hnone
    have hall : ∀ n ∈ List.range (d.nodes.length + 1),
        place ++ [candidate n] ∈ d.nodes.keys := by
      intro n hn
      by_contra hfree
      refine hnone ⟨candidate n, List.mem_map.2 ⟨n, hn, rfl⟩, ?_⟩
      rwa [Bool.not_eq_true', ← Bool.not_eq_true, Table.has_iff]
    -- There are more candidates than entries.
    have hwithin :
        (List.range (d.nodes.length + 1)).map (place ++ [candidate ·]) ⊆ d.nodes.keys := by
      intro other hother
      obtain ⟨n, hn, rfl⟩ := List.mem_map.1 hother
      exact hall n hn
    have hlength := (List.nodup_range.map hinj).length_le_of_subset hwithin
    rw [List.length_map, List.length_range, Table.keys, List.length_map] at hlength
    omega
  obtain ⟨name, hname⟩ := Option.isSome_iff_exists.1 (List.find?_isSome.2 hfree)
  have hfresh : d.freshName place beginning ending = name := by
    rw [freshName]
    exact congrArg (Option.getD · beginning) hname
  obtain ⟨n, -, hn⟩ := List.mem_map.1 (List.mem_of_find?_eq_some hname)
  refine ⟨⟨n, hfresh.trans hn.symm⟩, ?_⟩
  have hunused := List.find?_some hname
  rw [Bool.not_eq_true', ← Bool.not_eq_true, Table.has_iff, ← Table.get?_ne_none_iff, ne_eq,
    not_not] at hunused
  rw [hfresh, node?_of_ne_nil _ (concat_ne_nil place name), hunused]

end Disk

end ControlSchema

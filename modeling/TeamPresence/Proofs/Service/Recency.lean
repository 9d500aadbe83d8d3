import Mathlib.Data.Finset.Card
import TeamPresence.Service.Memo

/-!
# What a memo recalls

A memo that every registration is pushed onto, and that is cut back to its size each time, holds
the last registrations of the senders that registered most recently: as many of `latest` as there is
room for (`bound_push_bound`). So it finds a sender's last registration as long as fewer others than
it has room for have registered since (`find?_bound_latest`).
-/

namespace TeamPresence.Memo

def senders (rs : List Registration) : Finset Address := (rs.map Registration.sender).toFinset

/-- The senders of registrations but for one. -/
def others (a : Address) (rs : List Registration) : Finset Address := (senders rs).erase a

/-- The registrations with none of the same sender after them. -/
def latest : List Registration → List Registration
  | [] => []
  | r :: rest => if r.sender ∈ senders rest then latest rest else r :: latest rest

/-- What there is to recall from a history of registrations: one that is the last of its sender,
unless as many other senders as there is room for have registered since. -/
def Recalls (size : Int) (rs : List Registration) (r : Registration) : Prop :=
  ∃ before after, rs = before ++ r :: after ∧ r.sender ∉ senders after ∧
    (senders after).card < size

/-- A registration is the last of its sender, and only some others have registered since. -/
def Last (since : Finset Address) (rs : List Registration) (r : Registration) : Prop :=
  ∃ before after, rs = before ++ r :: after ∧ r.sender ∉ senders after ∧ senders after ⊆ since

theorem Recalls.mem {size : Int} {rs : List Registration} {r : Registration}
    (h : Recalls size rs r) : r ∈ rs := by
  obtain ⟨before, after, rfl, -, -⟩ := h
  exact List.mem_append_right before List.mem_cons_self

@[simp] theorem mem_senders {a : Address} {rs : List Registration} :
    a ∈ senders rs ↔ ∃ r ∈ rs, r.sender = a := by
  rw [senders, List.mem_toFinset, List.mem_map]

theorem senders_cons (r : Registration) (rs : List Registration) :
    senders (r :: rs) = insert r.sender (senders rs) := List.toFinset_cons

theorem senders_append (rs ts : List Registration) :
    senders (rs ++ ts) = senders rs ∪ senders ts := by
  rw [senders, List.map_append, List.toFinset_append, senders, senders]

theorem others_subset_append (a : Address) (rs ts : List Registration) :
    others a rs ⊆ others a (rs ++ ts) := by
  rw [others, others, senders_append]
  exact Finset.erase_subset_erase a Finset.subset_union_left

namespace Last

variable {since : Finset Address} {rs : List Registration} {r e : Registration}

theorem recalls (h : Last since rs r) {size : Int} (hsize : since.card < size) :
    Recalls size rs r := by
  obtain ⟨before, after, hrs, hafter, hsince⟩ := h
  exact ⟨before, after, hrs, hafter, by have := Finset.card_le_card hsince; omega⟩

theorem mono (h : Last since rs r) {later : Finset Address} (hle : since ⊆ later) :
    Last later rs r := by
  obtain ⟨before, after, hrs, hafter, hsince⟩ := h
  exact ⟨before, after, hrs, hafter, hsince.trans hle⟩

theorem concat_self (since : Finset Address) (rs : List Registration) (r : Registration) :
    Last since (rs ++ [r]) r := ⟨rs, [], rfl, by simp, by simp [senders]⟩

theorem concat_of_ne (h : Last since rs r) (hne : e.sender ≠ r.sender) (he : e.sender ∈ since) :
    Last since (rs ++ [e]) r := by
  obtain ⟨before, after, rfl, hafter, hsince⟩ := h
  have hsenders : senders (after ++ [e]) = senders after ∪ {e.sender} := senders_append after [e]
  refine ⟨before, after ++ [e], by simp, ?_, ?_⟩
  · rw [hsenders, Finset.mem_union, Finset.mem_singleton]
    exact fun h => h.elim hafter fun h => hne h.symm
  · rw [hsenders]
    exact Finset.union_subset hsince (Finset.singleton_subset_iff.mpr he)

theorem append {later : List Registration} (h : Last (others r.sender later) rs r)
    {next : Option Registration} (hnext : ∀ e ∈ next, e.sender = r.sender → e = r) :
    Last (others r.sender (later ++ next.toList)) (rs ++ next.toList) r := by
  cases next with
  | none => simpa using h
  | some e =>
    by_cases hsender : e.sender = r.sender
    · rw [hnext e rfl hsender]
      exact concat_self _ _ _
    · refine (h.mono (others_subset_append _ _ _)).concat_of_ne hsender ?_
      exact Finset.mem_erase.mpr ⟨hsender, mem_senders.mpr ⟨e, by simp, rfl⟩⟩

end Last

/-! ### The last of each sender -/

theorem latest_sublist (rs : List Registration) : (latest rs).Sublist rs := by
  induction rs with
  | nil => exact .slnil
  | cons r rest ih =>
    rw [latest]
    split
    · exact ih.cons r
    · exact ih.cons_cons r

theorem nodup_latest (rs : List Registration) : ((latest rs).map Registration.sender).Nodup := by
  induction rs with
  | nil => exact .nil
  | cons r rest ih =>
    rw [latest]
    split
    · exact ih
    · next h =>
      refine List.nodup_cons.mpr ⟨fun hmem => h ?_, ih⟩
      exact List.mem_toFinset.mpr (((latest_sublist rest).map _).subset hmem)

theorem length_latest (rs : List Registration) : (latest rs).length = (senders rs).card := by
  induction rs with
  | nil => rfl
  | cons r rest ih =>
    rw [latest, senders_cons]
    split
    · next h => rw [Finset.insert_eq_of_mem h, ih]
    · next h => rw [Finset.card_insert_of_notMem h, List.length_cons, ih]

theorem latest_append (before after : List Registration) :
    latest (before ++ after) =
      (latest before).filter (fun e => e.sender ∉ senders after) ++ latest after := by
  induction before with
  | nil => rfl
  | cons r rest ih =>
    have hmem : r.sender ∈ senders (rest ++ after) ↔
        r.sender ∈ senders rest ∨ r.sender ∈ senders after := by
      rw [senders_append, Finset.mem_union]
    rw [List.cons_append, latest, latest]
    by_cases hrest : r.sender ∈ senders rest
    · rw [if_pos (hmem.mpr (Or.inl hrest)), if_pos hrest, ih]
    · rw [if_neg hrest, List.filter_cons]
      by_cases hafter : r.sender ∈ senders after
      · rw [if_pos (hmem.mpr (Or.inr hafter)), if_neg (by simpa using hafter), ih]
      · rw [if_neg (by rw [hmem]; tauto), if_pos (by simpa using hafter), ih, List.cons_append]

theorem push_latest (rs : List Registration) (r : Registration) :
    push ⟨latest rs⟩ r = ⟨latest (rs ++ [r])⟩ := by
  have hfilter : ∀ e ∈ latest rs,
      (e.sender != r.sender) = decide (e.sender ∉ senders [r]) := fun e _ => by
    simp [bne, eq_comm, Bool.beq_eq_decide_eq]
  rw [push, latest_append, List.filter_congr hfilter]
  rfl

/-! ### The bound -/

theorem bound_of_length_le {l : List Registration} {size : Int} (h : l.length ≤ size.toNat) :
    bound ⟨l⟩ size = ⟨l⟩ := by
  rw [bound, Nat.sub_eq_zero_of_le h, List.drop_zero]

theorem bound_append (l : List Registration) {k : List Registration} {size : Int}
    (h : size.toNat ≤ k.length) : bound ⟨l ++ k⟩ size = bound ⟨k⟩ size := by
  simp only [bound, List.length_append, mk.injEq]
  rw [Nat.add_sub_assoc h, List.drop_length_add_append]

theorem length_le_filter_sender {l : List Registration}
    (h : (l.map Registration.sender).Nodup) (a : Address) :
    l.length ≤ (l.filter fun e => e.sender != a).length + 1 := by
  induction l with
  | nil => exact Nat.zero_le _
  | cons e rest ih =>
    obtain ⟨hnew, hrest⟩ := List.nodup_cons.mp h
    by_cases he : e.sender = a
    · have hkept : rest.filter (fun e => e.sender != a) = rest :=
        List.filter_eq_self.mpr fun x hx => bne_iff_ne.mpr fun hxa =>
          hnew (he ▸ hxa ▸ List.mem_map_of_mem hx)
      rw [List.filter_cons_of_neg (by simp [he]), hkept, List.length_cons]
    · rw [List.filter_cons_of_pos (by simp [he]), List.length_cons, List.length_cons]
      have := ih hrest
      omega

/-- A memo that has been cut back takes in a registration as one that has not. -/
theorem bound_push_bound {l : List Registration} (h : (l.map Registration.sender).Nodup)
    (size : Int) (r : Registration) :
    ((bound ⟨l⟩ size).push r).bound size = (push ⟨l⟩ r).bound size := by
  rcases Nat.le_total l.length size.toNat with hle | hle
  · rw [bound_of_length_le hle]
  · obtain ⟨cut, hcut⟩ : ∃ cut, l.length - size.toNat = cut := ⟨_, rfl⟩
    have hbound : bound ⟨l⟩ size = ⟨l.drop cut⟩ := by rw [bound, hcut]
    have hpush : push ⟨l⟩ r =
        ⟨(l.take cut).filter (fun e => e.sender != r.sender) ++ (push ⟨l.drop cut⟩ r).entries⟩ := by
      rw [push, push, ← List.append_assoc, ← List.filter_append, List.take_append_drop]
    have hkept := length_le_filter_sender (h.sublist ((List.drop_sublist cut l).map _)) r.sender
    rw [hbound, hpush, bound_append]
    rw [List.length_drop] at hkept
    simp only [push, List.length_append, List.length_singleton]
    omega

/-! ### Looking up -/

theorem sender_of_find? {m : Memo} {a : Address} {r : Registration} (h : m.find? a = some r) :
    r.sender = a := by
  rw [find?] at h
  simpa using List.find?_some h

theorem find?_of_last {before after : List Registration} {r : Registration}
    (h : r.sender ∉ senders after) (size : Int) :
    (bound ⟨latest (before ++ r :: after)⟩ size).find? r.sender =
      if (senders after).card < size then some r else none := by
  have hlatest : latest (r :: after) = r :: latest after := if_neg h
  have hafter : ∀ e ∈ latest after, e.sender ≠ r.sender := fun e he hsender =>
    h (mem_senders.mpr ⟨e, (latest_sublist after).subset he, hsender⟩)
  rw [latest_append, hlatest]
  generalize hearlier : (latest before).filter _ = earlier
  have hbefore : ∀ e ∈ earlier, e.sender ≠ r.sender := by
    intro e he hsender
    rw [← hearlier, List.mem_filter] at he
    simp [senders_cons, hsender] at he
  have hlength : (r :: latest after).length = (senders after).card + 1 := by
    rw [List.length_cons, length_latest]
  split
  · next hroom =>
    -- the bound cuts into `earlier` at most
    have hcut : ∃ cut, bound ⟨earlier ++ r :: latest after⟩ size =
        ⟨earlier.drop cut ++ r :: latest after⟩ := by
      refine ⟨(earlier ++ r :: latest after).length - size.toNat, ?_⟩
      rw [bound, List.drop_append_of_le_length]
      rw [List.length_append, hlength]
      omega
    obtain ⟨cut, hcut⟩ := hcut
    rw [hcut, find?, List.find?_append, List.find?_eq_none.mpr]
    · simp
    · intro e he
      simpa using hbefore e (List.mem_of_mem_drop he)
  · next hroom =>
    have hsize : size.toNat ≤ (latest after).length := by
      rw [length_latest]
      omega
    rw [List.append_cons, bound_append _ hsize, find?, List.find?_eq_none]
    intro e he
    simpa using hafter e (List.mem_of_mem_drop he)

theorem exists_last {a : Address} {rs : List Registration} (h : a ∈ senders rs) :
    ∃ before r after, rs = before ++ r :: after ∧ r.sender = a ∧ a ∉ senders after := by
  induction rs with
  | nil => simp at h
  | cons e rest ih =>
    by_cases hrest : a ∈ senders rest
    · obtain ⟨before, r, after, rfl, hr, hafter⟩ := ih hrest
      exact ⟨e :: before, r, after, rfl, hr, hafter⟩
    · rw [senders_cons, Finset.mem_insert] at h
      exact ⟨[], e, rest, rfl, (h.resolve_right hrest).symm, hrest⟩

/-- **What a memo finds of a sender is what there is to recall of it.** -/
theorem find?_bound_latest {rs : List Registration} {size : Int} {a : Address}
    {r : Registration} :
    (bound ⟨latest rs⟩ size).find? a = some r ↔ r.sender = a ∧ Recalls size rs r := by
  constructor
  · intro h
    have hmem : r ∈ latest rs := List.mem_of_mem_drop (List.mem_of_find?_eq_some h)
    obtain ⟨before, e, after, rfl, rfl, hafter⟩ :=
      exists_last (mem_senders.mpr ⟨r, (latest_sublist rs).subset hmem, sender_of_find? h⟩)
    rw [find?_of_last hafter] at h
    split at h
    · next hroom =>
      cases h
      exact ⟨rfl, before, after, rfl, hafter, hroom⟩
    · cases h
  · rintro ⟨rfl, before, after, rfl, hafter, hroom⟩
    rw [find?_of_last hafter, if_pos hroom]

end TeamPresence.Memo

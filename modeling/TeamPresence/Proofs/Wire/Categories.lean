import Mathlib.Data.List.DropRight
import TeamPresence.Proofs.Wire.Slots

/-!
# Lists that are packed and read

Lists can be packed exactly if each is proper: its delimiter is marked, its identifiers are not, and
every entry fits a slot (`pack_isOk_iff`).

**`pack_unpack`**: the slots of proper lists are as many as their entries, and a query reads the
identifiers of the first list that it names. The null characters at the end of an entry are lost on
the way, so they are left out of what names a list, too.
-/

namespace TeamPresence

variable {ε α β γ : Type}

theorem pair_isOk_iff {x : Except ε α} {y : Except ε β} {f : α → β → γ} :
    (∃ c, (x >>= fun a => y >>= fun b => pure (f a b)) = .ok c) ↔
      (∃ a, x = .ok a) ∧ ∃ b, y = .ok b := by
  cases x <;> cases y <;> simp

namespace Wire

/-- Whether an entry fits a slot: each of its characters has a byte, and there is room for them. -/
def FitsSlot (entry : String) : Prop :=
  (∀ c ∈ entry.toList, c.toNat < 256) ∧ entry.toList.length ≤ slotSize

/-- A list that can be told from the others by its mark, and fits into slots. -/
structure Category.Proper (c : Category) : Prop where
  delimiter : isMarked c.delimiter = true
  identifiers : ∀ n ∈ c.identifiers, isMarked n = false
  fits : ∀ e ∈ c.entries, FitsSlot e

/-! ### What can be packed -/

theorem slotOf_isOk_iff {entry : String} : (∃ b, slotOf entry = .ok b) ↔ FitsSlot entry := by
  simp only [slotOf_eq_ok_iff, Latin1.encode_eq_ok_iff, Latin1.isEncodable, decide_eq_true_eq]
  constructor
  · rintro ⟨b, raw, ⟨hall, rfl⟩, hle, rfl⟩
    exact ⟨hall, by simpa using hle⟩
  · rintro ⟨hall, hle⟩
    exact ⟨_, _, ⟨hall, rfl⟩, by simpa using hle, rfl⟩

theorem packIdentifiers_isOk_iff {names : List String} :
    (∃ b, packIdentifiers names = .ok b) ↔
      ∀ n ∈ names, isMarked n = false ∧ FitsSlot n := by
  induction names with
  | nil => simp [packIdentifiers]
  | cons name rest ih =>
    rw [packIdentifiers, List.forall_mem_cons, ← ih]
    cases hmark : isMarked name with
    | true => simp
    | false =>
      have hboth := pair_isOk_iff (x := slotOf name) (y := packIdentifiers rest)
        (f := fun slot slots => slot ++ slots)
      rw [slotOf_isOk_iff] at hboth
      simpa using hboth

theorem packCategory_isOk_iff {c : Category} : (∃ b, packCategory c = .ok b) ↔ c.Proper := by
  rw [packCategory]
  cases hmark : isMarked c.delimiter with
  | false =>
    have hnot : ¬ c.Proper := fun h => absurd h.delimiter (by simp [hmark])
    simp [hnot]
  | true =>
    have hboth := pair_isOk_iff (x := slotOf c.delimiter) (y := packIdentifiers c.identifiers)
      (f := fun slot slots => slot ++ slots)
    rw [slotOf_isOk_iff, packIdentifiers_isOk_iff] at hboth
    refine (Iff.trans (by simp) hboth).trans ⟨fun h => ?_, fun h => ?_⟩
    · refine ⟨hmark, fun n hn => (h.2 n hn).1, fun e he => ?_⟩
      rcases List.mem_cons.mp he with rfl | he
      · exact h.1
      · exact (h.2 e he).2
    · refine ⟨h.fits _ List.mem_cons_self, fun n hn => ?_⟩
      exact ⟨h.identifiers n hn, h.fits n (List.mem_cons_of_mem _ hn)⟩

theorem packCategories_isOk_iff {cs : List Category} :
    (∃ b, packCategories cs = .ok b) ↔ ∀ c ∈ cs, c.Proper := by
  induction cs with
  | nil => simp [packCategories]
  | cons c rest ih =>
    rw [packCategories, pair_isOk_iff, packCategory_isOk_iff, ih, List.forall_mem_cons]

theorem pack_isOk_iff {cs : List Category} {terminate : Bool} :
    (∃ b, pack cs terminate = .ok b) ↔ ∀ c ∈ cs, c.Proper := by
  rw [← packCategories_isOk_iff, pack]
  cases packCategories cs <;> simp

/-! ### What is read of packed lists -/

theorem length_terminator (terminate : Bool) :
    (terminator terminate).length = if terminate then 1 else 0 := by
  cases terminate <;> rfl

theorem isMarked_trimNulls (s : String) : isMarked (trimNulls s) = isMarked s := by
  rw [isMarked, isMarked, trimNulls, String.toList_ofList]
  cases hchars : s.toList with
  | nil => rfl
  | cons c rest =>
    have hprefix := List.rdropWhile_prefix (p := (· == '\x00')) (c :: rest)
    cases hkept : (c :: rest).rdropWhile (· == '\x00') with
    | cons d kept =>
      rw [hkept] at hprefix
      simp [(List.cons_prefix_cons.mp hprefix).1]
    | nil =>
      -- nothing is left, so the first character was a null character, too
      have hnull : c = '\x00' := by
        simpa using List.rdropWhile_eq_nil_iff.mp hkept c List.mem_cons_self
      rw [hnull]
      rfl

theorem namesAfter?_map_trimNulls {q : String} (hq : isMarked q = true) {cs : List Category}
    (hcs : ∀ c ∈ cs, c.Proper) :
    namesAfter? q ((cs.flatMap Category.entries).map trimNulls) =
      (cs.find? fun c => trimNulls c.delimiter == q).map fun c => c.identifiers.map trimNulls := by
  induction cs with
  | nil => rfl
  | cons c rest ih =>
    obtain ⟨hdelimiter, hidentifiers, -⟩ := hcs c List.mem_cons_self
    have hrest : ∀ d ∈ rest, d.Proper := fun d hd => hcs d (List.mem_cons_of_mem c hd)
    have hnames : ∀ t ∈ c.identifiers.map trimNulls, isMarked t = false := by
      simpa [isMarked_trimNulls] using hidentifiers
    rw [List.flatMap_cons, List.map_append, Category.entries, List.map_cons, List.cons_append]
    by_cases hfound : trimNulls c.delimiter = q
    · -- the names end where the next delimiter stands
      have hnext : ((rest.flatMap Category.entries).map trimNulls).takeWhile
          (fun t => !isMarked t) = [] := by
        cases rest with
        | nil => rfl
        | cons d others =>
          have hd := (hrest d List.mem_cons_self).delimiter
          simp [Category.entries, isMarked_trimNulls, hd]
      rw [List.find?_cons_of_pos (by simpa using hfound), namesAfter?, List.dropWhile_cons,
        if_neg (by simpa using hfound)]
      dsimp only
      rw [List.takeWhile_append_of_pos (by simpa using hnames), hnext, List.append_nil,
        Option.map_some]
    · -- neither the delimiter nor an identifier of this list is what is asked for
      have hother : ∀ t ∈ trimNulls c.delimiter :: c.identifiers.map trimNulls,
          (t != q) = true := by
        intro t ht
        rw [bne_iff_ne]
        rintro rfl
        rcases List.mem_cons.mp ht with rfl | ht
        · exact hfound rfl
        · exact absurd hq (by simp [hnames t ht])
      rw [List.find?_cons_of_neg (by simpa using hfound), ← ih hrest, namesAfter?, namesAfter?,
        ← List.cons_append, List.dropWhile_append_of_pos hother]

theorem length_of_pack {cs : List Category} {terminate : Bool} {b : Bytes}
    (h : pack cs terminate = .ok b) :
    b.length =
      slotSize * (cs.flatMap Category.entries).length + (if terminate then 1 else 0) := by
  obtain ⟨slots, rfl, hlays⟩ := lays_pack h
  rw [List.length_append, hlays.length, length_terminator]

theorem unpack_of_pack {cs : List Category} {terminate : Bool} {b : Bytes}
    (h : pack cs terminate = .ok b) {q : String} (hq : isMarked q = true) :
    unpack b q =
      match cs.find? fun c => trimNulls c.delimiter == q with
      | some c => .ok (c.identifiers.map trimNulls)
      | none => .error (.malformed (.listMissing q)) := by
  have hcs : ∀ c ∈ cs, c.Proper := pack_isOk_iff.mp ⟨b, h⟩
  obtain ⟨slots, rfl, hlays⟩ := lays_pack h
  have htail : (terminator terminate).length < slotSize := by
    rw [length_terminator]
    cases terminate <;> decide
  rw [unpack_eq, hlays.texts_append htail, namesAfter?_map_trimNulls hq hcs]
  cases cs.find? fun c => trimNulls c.delimiter == q <;> rfl

/-- **Which lists can be packed, and what is read of them.** Packing succeeds exactly for proper
lists. Each entry then takes a slot, and a query that is marked reads the identifiers of the first
list with that delimiter, or finds none. -/
theorem pack_unpack (cs : List Category) (terminate : Bool) :
    ((∃ b, pack cs terminate = .ok b) ↔ ∀ c ∈ cs, c.Proper) ∧
      ∀ b, pack cs terminate = .ok b →
        b.length = slotSize * (cs.flatMap Category.entries).length + (if terminate then 1 else 0) ∧
        ∀ q, isMarked q = true →
          unpack b q =
            match cs.find? fun c => trimNulls c.delimiter == q with
            | some c => .ok (c.identifiers.map trimNulls)
            | none => .error (.malformed (.listMissing q)) :=
  ⟨pack_isOk_iff, fun _ h => ⟨length_of_pack h, fun _ hq => unpack_of_pack h hq⟩⟩

/-- Two lists with delimiters that read the same: a query gets the first. -/
theorem pack_unpack_namesakes :
    ∃ b, pack [⟨"#A\x00", ["Ann\x00", ""]⟩, ⟨"#A", ["Bob"]⟩] true = .ok b ∧ b.length = 81 ∧
      unpack b "#A" = .ok ["Ann", ""] ∧
      unpack b "#B" = .error (.malformed (.listMissing "#B")) := by
  obtain ⟨b, hb⟩ : ∃ b, pack [⟨"#A\x00", ["Ann\x00", ""]⟩, ⟨"#A", ["Bob"]⟩] true = .ok b :=
    ⟨_, rfl⟩
  obtain ⟨hlength, hread⟩ := (pack_unpack _ true).2 b hb
  refine ⟨b, hb, hlength, (hread "#A" (by decide)).trans ?_, (hread "#B" (by decide)).trans ?_⟩
  · decide +kernel
  · decide +kernel

end Wire

end TeamPresence

import TeamPresence.Proofs.Number.Numeral
import TeamPresence.Proofs.Service.History
import TeamPresence.Proofs.Wire.Bodies

/-!
# What a client reads of the answers

The replies of a sound service, as a client decodes them: the network ID in an acknowledgement
(`networkId_of_acknowledge`), the names in the description (`Sound.names_of_description`), and the
slots of a roster (`Sound.slots_of_teamStatus`).
-/

namespace TeamPresence

theorem Reply.make_eq_ok_iff {kind : ReplyKind} {body : Bytes} {r : Reply} :
    Reply.make kind.code.toNat body = .ok r ↔
      (1 ≤ body.length ∧ body.length ≤ maxReplyBody) ∧ r.code = kind.code ∧ r.body = body := by
  have hbyte : byteField .messageType kind.code.toNat = .ok kind.code := by cases kind <;> rfl
  obtain ⟨code, content, hpos, hle⟩ := r
  rw [Reply.make, hbyte, ok_bind]
  split
  · simp [*, eq_comm]
  · simp [*]

theorem Reply.expect_eq_ok {kind : ReplyKind} {r : Reply} (h : r.code = kind.code) :
    r.expect kind = .ok () := if_pos h

namespace Service

theorem networkId_of_acknowledge {id : Nat} {r : Reply} (h : acknowledge id = .ok r) :
    r.code = ReplyKind.registered.code ∧ r.networkId = .ok id := by
  rw [acknowledge] at h
  cases hbytes : Latin1.encode (toString id) with
  | error gap =>
    rw [hbytes] at h
    cases h
  | ok body =>
    rw [hbytes] at h
    obtain ⟨⟨-, hle⟩, hcode, hbody⟩ := Reply.make_eq_ok_iff.mp h
    refine ⟨hcode, ?_⟩
    have hdigits : ∀ c ∈ (toString id).toList, c.isDigit = true := fun c hc => by
      rw [Nat.toString_eq_ofList_toDigits, String.toList_ofList] at hc
      exact Nat.isDigit_of_mem_toDigits (by decide) (by decide) hc
    have htext : r.text = toString id := by
      rw [Reply.text, hbody, textOf_of_encode hbytes, trimNulls_eq_self]
      intro c hc hnull
      exact absurd (hnull ▸ hdigits c hc) (by decide)
    have hlength : (toString id).length ≤ Numeral.maxDigits := by
      obtain ⟨-, rfl⟩ := Latin1.encode_eq_ok_iff.mp hbytes
      rw [List.length_map, String.length_toList] at hle
      exact hle.trans (by decide)
    rw [Reply.networkId, Reply.expect_eq_ok hcode, ok_bind, htext, Numeral.integer_toString hlength]
    rfl

namespace Sound

variable {s : Service}

theorem names_of_description (hs : s.Sound) :
    s.description.code = ReplyKind.description.code ∧
      s.description.teamNames = .ok s.directory.teamNames ∧
      s.description.statusNames = .ok s.directory.statuses := by
  obtain ⟨body, hbody, hmake⟩ := bind_eq_ok_iff.mp hs.described
  obtain ⟨-, hcode, rfl⟩ := Reply.make_eq_ok_iff.mp hmake
  obtain ⟨hteams, hstatuses⟩ := Wire.unpack_of_packDescription hbody
    (fun n hn => Wire.isEntry_of_isIdentifier (hs.teamNames n hn))
    (fun n hn => Wire.isEntry_of_isIdentifier (hs.statuses n hn))
  refine ⟨hcode, ?_, ?_⟩
  · rw [Reply.teamNames, Reply.expect_eq_ok hcode, ok_bind, hteams]
  · rw [Reply.statusNames, Reply.expect_eq_ok hcode, ok_bind, hstatuses]

end Sound

end Service

namespace Directory

theorem length_names (d : Directory) (team : Team) :
    (d.rosterView team).names.length = team.roster.capacity := by
  simp only [rosterView, Roster.names, Roster.map, List.length_map, Roster.capacity]

theorem length_statuses (d : Directory) (team : Team) :
    (d.rosterView team).statuses.length = team.roster.capacity := by
  simp only [rosterView, Roster.statuses, Roster.map, List.length_map, Roster.capacity]

theorem toNat_statusByte {status : Int} (h : 0 ≤ status ∧ status ≤ 255) :
    ((UInt8.ofNat status.toNat).toNat : Int) = status := by
  rw [UInt8.toNat_ofNat']
  omega

theorem Proper.status_le {d : Directory} {id : Nat} {u : User} (h : d.Proper id u) :
    0 ≤ u.status ∧ u.status ≤ 255 := by
  have hstatus := isValidStatus_iff.mp h.status
  simp only [noStatus] at hstatus
  omega

namespace Seated

variable {d : Directory}

theorem proper_of_mem (hd : d.Seated) {t : Nat} {team : Team} (ht : d.teams[t]? = some team)
    {u : User} (hu : some u ∈ (d.rosterView team).slots) : ∃ id, d.Proper id u := by
  obtain ⟨o, ho, hrecord⟩ := List.mem_map.mp hu
  obtain ⟨seat, rfl, rfl⟩ := Option.map_eq_some_iff.mp hrecord
  obtain ⟨i, hi⟩ := List.mem_iff_getElem?.mp ho
  obtain ⟨id, u, rfl, hu, -⟩ :=
    hd.member ((occupant?_eq ht i).trans (Roster.occupant?_eq_some_iff.mpr hi))
  rw [record_member hu]
  exact ⟨id, hd.proper hu⟩

theorem isEntry_of_mem_names (hd : d.Seated) {t : Nat} {team : Team}
    (ht : d.teams[t]? = some team) {n : String} (hn : n ∈ (d.rosterView team).names) :
    Wire.IsEntry n := by
  obtain ⟨_ | u, ho, rfl⟩ := List.mem_map.mp hn
  · exact Wire.isEntry_empty
  · obtain ⟨id, hu⟩ := hd.proper_of_mem ht ho
    exact Wire.isEntry_of_isIdentifier hu.name

theorem status_le_of_mem_statuses (hd : d.Seated) {t : Nat} {team : Team}
    (ht : d.teams[t]? = some team) {status : Int} (h : status ∈ (d.rosterView team).statuses) :
    0 ≤ status ∧ status ≤ 255 := by
  obtain ⟨_ | u, ho, rfl⟩ := List.mem_map.mp h
  · decide
  · obtain ⟨id, hu⟩ := hd.proper_of_mem ht ho
    exact hu.status_le

end Seated

end Directory

namespace Service.Sound

variable {s : Service}

/-- The slots of a roster are read back, a status as the byte that it is sent as. -/
theorem slots_of_teamStatus (hs : s.Sound) {r : Request} {reply : Reply}
    (h : s.teamStatus r = .ok reply) :
    ∃ team, s.directory.teams[r.team.toNat]? = some team ∧
      reply.code = ReplyKind.teamStatus.code ∧
      reply.userNames = .ok (s.directory.rosterView team).names ∧
      reply.statusVector =
        .ok ((s.directory.rosterView team).statuses.map fun n => UInt8.ofNat n.toNat) := by
  rw [teamStatus] at h
  obtain ⟨⟨names, statuses⟩, hview, h⟩ := bind_eq_ok_iff.mp h
  obtain ⟨body, hbody, hmake⟩ := bind_eq_ok_iff.mp h
  rw [Directory.teamView, if_pos (Int.natCast_nonneg _), Int.toNat_natCast] at hview
  cases hteam : s.directory.teams[r.team.toNat]? with
  | none => simp [hteam] at hview
  | some team =>
    rw [hteam] at hview
    cases hview
    obtain ⟨-, hcode, rfl⟩ := Reply.make_eq_ok_iff.mp hmake
    obtain ⟨-, hread⟩ := Wire.unpackTeamStatus_of_pack hbody
      fun n hn => hs.seated.isEntry_of_mem_names hteam hn
    refine ⟨team, rfl, hcode, ?_, ?_⟩
    · rw [Reply.userNames, Reply.expect_eq_ok hcode, ok_bind, hread]
      rfl
    · rw [Reply.statusVector, Reply.expect_eq_ok hcode, ok_bind, hread]
      rfl

theorem teamStatus_isOk (hs : s.Sound) {r : Request} {team : Team}
    (hteam : s.directory.teams[r.team.toNat]? = some team) (hsize : team.roster.capacity ≤ 59) :
    ∃ reply, s.teamStatus r = .ok reply := by
  have hnames : ∀ n ∈ (s.directory.rosterView team).names, Wire.IsEntry n :=
    fun n hn => hs.seated.isEntry_of_mem_names hteam hn
  have hlen := Directory.length_names s.directory team
  obtain ⟨body, hbody⟩ := Wire.packTeamStatus_isOk
    (hlen.trans (Directory.length_statuses s.directory team).symm) hnames
    fun status h => hs.seated.status_le_of_mem_statuses hteam h
  obtain ⟨hbodyLength, -⟩ := Wire.unpackTeamStatus_of_pack hbody hnames
  have hfits : 1 ≤ body.length ∧ body.length ≤ maxReplyBody := by
    rw [hbodyLength, hlen]
    simp only [slotSize, maxReplyBody, maxDatagram, replyHeaderSize]
    omega
  refine ⟨⟨ReplyKind.teamStatus.code, body, hfits.1, hfits.2⟩, ?_⟩
  rw [teamStatus, Directory.teamView, if_pos (Int.natCast_nonneg _), Int.toNat_natCast, hteam,
    ok_bind]
  simp only [hbody, ok_bind]
  exact Reply.make_eq_ok_iff.mpr ⟨hfits, rfl, rfl⟩

end Service.Sound

end TeamPresence

import TeamPresence.Proofs.Service.Answers
import TeamPresence.Proofs.Wire.Framing
import TeamPresence.Service.Host

/-!
# From the settings to the clients

The names of teams and statuses are set as text, checked when the settings are loaded, checked again
when the directory is made, packed into the description, and read by clients. `names_announced`
follows them all the way: the two checks accept the same lists (`checkNames_eq_ok_iff`,
`Directory.create_isOk_iff`), a text in which slashes divide the names is read as these names
(`Spells.readNames_eq`), and what a client decodes of the description is what was set.
-/

namespace TeamPresence

/-! ### The two checks -/

/-- A list of names that a server can be set up with. -/
def IsNameList (list : NameList) (names : List String) : Prop :=
  (1 ≤ names.length ∧ names.length ≤ list.limit) ∧ ∀ n ∈ names, isIdentifier n = true

theorem checkNames_eq_ok_iff {list : NameList} {names : List String} :
    checkNames list names = .ok () ↔ IsNameList list names := by
  unfold checkNames IsNameList
  by_cases hcount : 1 ≤ names.length ∧ names.length ≤ list.limit
  · rw [if_pos hcount, and_iff_right hcount]
    cases hbad : names.find? fun n => !isIdentifier n with
    | none => simpa using hbad
    | some n =>
      have hn := List.find?_some hbad
      simp only [reduceCtorEq, false_iff]
      intro hall
      simp [hall n (List.mem_of_find?_eq_some hbad)] at hn
  · rw [if_neg hcount]
    simp [hcount]

theorem Directory.create_isOk_iff {teams statuses : List String} {size limit : Int} :
    (∃ d, Directory.create teams statuses size limit = .ok d) ↔
      IsNameList .teams teams ∧ IsNameList .statuses statuses := by
  simp only [create_eq_ok_iff, exists_and_left, exists_eq, and_true]
  unfold IsNameList
  tauto

/-! ### Texts that spell names -/

/-- A text in which slashes divide the names. There is at least one between two names; there may be
more, and some before the first name and after the last. -/
inductive Spells : List String → List Char → Prop
  | done : Spells [] []
  | slash {names : List String} {text : List Char} (h : Spells names text) :
    Spells names ('/' :: text)
  | name {name : String} {names : List String} {text : List Char} (h : Spells names text)
    (hends : ∀ c ∈ text.head?, c = '/') : Spells (name :: names) (name.toList ++ text)

theorem splitAtEach_eq_splitOn (separator : Char) (text : List Char) :
    splitAtEach separator text = text.splitOn separator := by
  induction text with
  | nil => rfl
  | cons c rest ih =>
    rw [splitAtEach, ih, List.splitOn_cons_eq_if_modifyHead]
    cases hparts : rest.splitOn separator with
    | nil => exact absurd hparts (List.splitOn_ne_nil separator rest)
    | cons part parts => simp

/-- A name that a text can spell. -/
def IsSpellable (name : String) : Prop := name.toList ≠ [] ∧ '/' ∉ name.toList

theorem isSpellable_of_isIdentifier {name : String} (h : isIdentifier name = true) :
    IsSpellable name := by
  obtain ⟨hpos, -, hchars⟩ := isIdentifier_iff.mp h
  refine ⟨List.length_pos_iff.mp hpos, ?_⟩
  intro hslash
  exact absurd (hchars _ hslash) (by decide)

theorem readNames_eq (text : List Char) :
    readNames (String.ofList text) =
      ((text.splitOn '/').filter fun part => !part.isEmpty).map String.ofList := by
  rw [readNames, String.toList_ofList, splitAtEach_eq_splitOn]

theorem readNames_slash (text : List Char) :
    readNames (String.ofList ('/' :: text)) = readNames (String.ofList text) := by
  rw [readNames_eq, readNames_eq, List.splitOn_cons_eq_if_modifyHead, if_pos (by simp)]
  rfl

theorem readNames_name_slash {name : String} (hname : IsSpellable name) (text : List Char) :
    readNames (String.ofList (name.toList ++ '/' :: text)) =
      name :: readNames (String.ofList text) := by
  rw [readNames_eq, readNames_eq, List.splitOn_append_cons_self_of_not_mem hname.2]
  simp [hname.1]

theorem readNames_name {name : String} (hname : IsSpellable name) :
    readNames (String.ofList name.toList) = [name] := by
  rw [readNames_eq, List.splitOn_eq_singleton hname.2]
  simp [hname.1]

namespace Spells

variable {names : List String} {text : List Char}

theorem readNames_eq (h : Spells names text) (hnames : ∀ n ∈ names, IsSpellable n) :
    readNames (String.ofList text) = names := by
  induction h with
  | done => rfl
  | @slash names text _ ih => rw [readNames_slash, ih hnames]
  | @name name names text htext hends ih =>
    obtain ⟨hname, hrest⟩ := List.forall_mem_cons.mp hnames
    cases text with
    | nil =>
      obtain rfl : [] = names := ih hrest
      rw [List.append_nil, readNames_name hname]
    | cons c rest =>
      obtain rfl : c = '/' := hends c rfl
      rw [readNames_name_slash hname, ← readNames_slash, ih hrest]

theorem text_ne_nil (h : Spells names text) (hnames : ∀ n ∈ names, IsSpellable n)
    (hne : names ≠ []) : text ≠ [] := by
  rintro rfl
  exact hne (h.readNames_eq hnames).symm

end Spells

/-! ### Setting up a server -/

/-- An environment that names the teams and statuses of a server and sets nothing else of it. -/
structure Environment.Names (env : Environment) (teams statuses : List String) : Prop where
  teams : ∃ text, env.get? "SERVER_TEAMS" = some text ∧ Spells teams text.toList
  statuses : ∃ text, env.get? "SERVER_STATUSES" = some text ∧ Spells statuses text.toList
  host : env.get? "SERVER_HOST" = none
  port : env.get? "SERVER_PORT" = none
  dedupe : env.get? "SERVER_DEDUPE_REGISTRATIONS" = none

theorem Environment.nonempty?_of_spells {env : Environment} {list : NameList} {key text : String}
    {names : List String} (hget : env.get? key = some text) (htext : Spells names text.toList)
    (hnames : IsNameList list names) :
    env.nonempty? key = some text ∧ readNames text = names := by
  have hspellable : ∀ n ∈ names, IsSpellable n := fun n hn =>
    isSpellable_of_isIdentifier (hnames.2 n hn)
  have hne : text.toList ≠ [] :=
    htext.text_ne_nil hspellable (List.length_pos_iff.mp hnames.1.1)
  have hread := htext.readNames_eq hspellable
  rw [String.ofList_toList] at hread
  refine ⟨?_, hread⟩
  rw [nonempty?, hget, Option.filter_some, if_pos]
  simpa using hne

theorem ServerSettings.check_of_names {teams statuses : List String}
    (hteams : IsNameList .teams teams) (hstatuses : IsNameList .statuses statuses) :
    ServerSettings.check { teams, statuses } = .ok () := by
  rw [check, checkNames_eq_ok_iff.mpr hteams, checkNames_eq_ok_iff.mpr hstatuses]
  rfl

theorem ServerSettings.load_of_names {env : Environment} {teams statuses : List String}
    (hteams : IsNameList .teams teams) (hstatuses : IsNameList .statuses statuses)
    (henv : env.Names teams statuses) : ServerSettings.load env = .ok { teams, statuses } := by
  obtain ⟨⟨teamsText, hteamsGet, hteamsText⟩, ⟨statusesText, hstatusesGet, hstatusesText⟩, hhost,
    hport, hdedupe⟩ := henv
  obtain ⟨hteamsSet, hteamsRead⟩ := Environment.nonempty?_of_spells hteamsGet hteamsText hteams
  obtain ⟨hstatusesSet, hstatusesRead⟩ :=
    Environment.nonempty?_of_spells hstatusesGet hstatusesText hstatuses
  have hportDefault : readInteger "SERVER_PORT" (toString defaultPort) = .ok defaultPort := by
    decide +kernel
  have hdedupeDefault : readFlag "SERVER_DEDUPE_REGISTRATIONS" "true" = .ok true := by
    decide +kernel
  simp only [load, hteamsSet, hstatusesSet, hteamsRead, hstatusesRead, Environment.getOr, hhost,
    hport, hdedupe, Option.getD_none, hportDefault, hdedupeDefault, ok_bind]
  rw [check_of_names hteams hstatuses]
  rfl

theorem Host.create_eq_ok_iff {settings : ServerSettings} {h : Host} :
    Host.create settings = .ok h ↔
      ∃ service, Service.host settings.teams settings.statuses defaultRosterSize noNetworkId
        settings.dedupe defaultMemory = .ok service ∧ h = { settings, service } := by
  simp only [create, Service.host, bind_eq_ok_iff, pure_eq_ok, Except.ok.injEq]
  grind

/-- A service can be set up with any names that are accepted. Its description has a slot for
each name and each of the two delimiters. -/
theorem Service.host_isOk {teams statuses : List String} (hteams : IsNameList .teams teams)
    (hstatuses : IsNameList .statuses statuses) (size limit memory : Int) (dedupe : Bool) :
    ∃ s, host teams statuses size limit dedupe memory = .ok s ∧
      s.directory.teamNames = teams ∧ s.directory.statuses = statuses ∧
      s.description.serialize.length = slotSize * (teams.length + statuses.length + 2) + 2 := by
  obtain ⟨d, hd⟩ : ∃ d, Directory.create teams statuses size limit = .ok d :=
    Directory.create_isOk_iff.mpr ⟨hteams, hstatuses⟩
  obtain ⟨-, -, -, -, hcreated⟩ := Directory.create_eq_ok_iff.mp hd
  have hteamNames : d.teamNames = teams := by
    rw [hcreated, Directory.teamNames, List.map_map]
    exact List.map_id teams
  have hstatusNames : d.statuses = statuses := by rw [hcreated]
  obtain ⟨body, hbody, hlength⟩ := Wire.packDescription_isOk
    (fun n hn => Wire.isEntry_of_isIdentifier (hteams.2 n hn))
    (fun n hn => Wire.isEntry_of_isIdentifier (hstatuses.2 n hn))
  have hfits : BodyFits maxReplyBody body := by
    have hteamsLe : teams.length ≤ 20 := hteams.1.2
    have hstatusesLe : statuses.length ≤ 20 := hstatuses.1.2
    simp only [BodyFits, hlength, slotSize, maxReplyBody, maxDatagram, replyHeaderSize]
    omega
  obtain ⟨description, hmake⟩ :=
    (Reply.make_of_fitsByte (fitsByte_toNat ReplyKind.description.code)).1 hfits
  have hdescribed : (Wire.packDescription d.teamNames d.statuses >>=
      Reply.make ReplyKind.description.code.toNat) = .ok description := by
    rw [hteamNames, hstatusNames, hbody, ok_bind, hmake]
  refine ⟨_, host_eq_ok_iff.mpr ⟨d, description, hd, hdescribed, rfl⟩, hteamNames, hstatusNames, ?_⟩
  rw [Reply.serialize, List.length_cons, (Reply.make_eq_ok_iff.mp hmake).2.2, hlength]

theorem Service.handle_description (s : Service) {r : Request} (h : r.kind? = some .description)
    (sender : Option Address) : s.handle r.serialize sender = (.ok s.description, s) := by
  rw [handle, Request.parse_serialize]
  simp only [answer, h]
  rfl

/-- **What is set is what is announced.** Loading the settings and creating the directory accept the
same names. A server that is named by texts with slashes between the names is set up with exactly
these names, in order and with repetitions; its description is a datagram, and what a client decodes
of it is these names again. -/
theorem names_announced :
    (∀ (teams statuses : List String) (size limit : Int),
      checkNames .teams teams = .ok () ∧ checkNames .statuses statuses = .ok () ↔
        ∃ d, Directory.create teams statuses size limit = .ok d) ∧
    ∀ (teams statuses : List String) (env : Environment) (current : Settings),
      (1 ≤ teams.length ∧ teams.length ≤ 20) → (∀ n ∈ teams, isIdentifier n = true) →
      (1 ≤ statuses.length ∧ statuses.length ≤ 20) → (∀ n ∈ statuses, isIdentifier n = true) →
      env.Names teams statuses →
      current.loadServer env =
        (.ok { teams, statuses }, { current with server := some { teams, statuses } }) ∧
      ∃ h, Host.create { teams, statuses } = .ok h ∧
        (∀ r : Request, r.kind? = some .description → ∀ sender,
          h.service.handle r.serialize sender = (.ok h.service.description, h.service)) ∧
        h.service.description.serialize.length = 16 * (teams.length + statuses.length + 2) + 2 ∧
        h.service.description.serialize.length ≤ 1024 ∧
        ∃ reply, Reply.parse h.service.description.serialize = .ok reply ∧
          reply.teamNames = .ok teams ∧ reply.statusNames = .ok statuses := by
  constructor
  · intro teams statuses size limit
    rw [checkNames_eq_ok_iff, checkNames_eq_ok_iff, Directory.create_isOk_iff]
  · intro teams statuses env current hteamsCount hteamsNames hstatusesCount hstatusesNames henv
    have hteams : IsNameList .teams teams := ⟨hteamsCount, hteamsNames⟩
    have hstatuses : IsNameList .statuses statuses := ⟨hstatusesCount, hstatusesNames⟩
    obtain ⟨s, hs, hteamNames, hstatusNames, hlength⟩ :=
      Service.host_isOk hteams hstatuses defaultRosterSize noNetworkId defaultMemory true
    obtain ⟨-, hreadTeams, hreadStatuses⟩ := (Service.sound_host hs).names_of_description
    constructor
    · rw [Settings.loadServer, ServerSettings.load_of_names hteams hstatuses henv]
    · refine ⟨_, Host.create_eq_ok_iff.mpr ⟨s, hs, rfl⟩, ?_⟩
      refine ⟨fun r hr sender => s.handle_description hr sender, hlength,
        s.description.length_serialize.2, s.description, s.description.parse_serialize, ?_, ?_⟩
      · rw [hreadTeams, hteamNames]
      · rw [hreadStatuses, hstatusNames]

/-- Two teams have the same name, and there are slashes at both ends and more than one between two
names. -/
theorem names_announced_slashes :
    ∃ env : Environment, env.Names ["Red Team", "Blue", "Blue"] ["Busy", "0"] ∧
      env.get? "SERVER_TEAMS" = some "//Red Team///Blue/Blue/" ∧
      (Settings.loadServer {} env).1 =
        .ok { teams := ["Red Team", "Blue", "Blue"], statuses := ["Busy", "0"] } ∧
      ∃ h,
        Host.create { teams := ["Red Team", "Blue", "Blue"], statuses := ["Busy", "0"] } = .ok h ∧
        h.service.description.serialize.length = 114 ∧
        ∃ reply, Reply.parse h.service.description.serialize = .ok reply ∧
          reply.teamNames = .ok ["Red Team", "Blue", "Blue"] ∧
          reply.statusNames = .ok ["Busy", "0"] := by
  let env : Environment :=
    ⟨[("SERVER_TEAMS", "//Red Team///Blue/Blue/"), ("SERVER_STATUSES", "Busy/0")]⟩
  have hteamsText : "//Red Team///Blue/Blue/".toList =
      '/' :: '/' :: ("Red Team".toList ++ '/' :: '/' :: '/' :: ("Blue".toList ++
        '/' :: ("Blue".toList ++ ['/']))) := by decide +kernel
  have hstatusesText : "Busy/0".toList = "Busy".toList ++ '/' :: ("0".toList ++ []) := by
    decide +kernel
  have hteams : Spells ["Red Team", "Blue", "Blue"] "//Red Team///Blue/Blue/".toList := by
    rw [hteamsText]
    refine .slash (.slash (.name (.slash (.slash (.slash (.name (.slash (.name (.slash .done) ?_))
      ?_)))) ?_))
    all_goals simp
  have hstatuses : Spells ["Busy", "0"] "Busy/0".toList := by
    rw [hstatusesText]
    refine .name (.slash (.name .done ?_)) ?_
    all_goals simp
  have henv : env.Names ["Red Team", "Blue", "Blue"] ["Busy", "0"] :=
    ⟨⟨_, rfl, hteams⟩, ⟨_, rfl, hstatuses⟩, rfl, rfl, rfl⟩
  obtain ⟨hload, h, hcreate, -, hlength, -, hread⟩ := names_announced.2
    ["Red Team", "Blue", "Blue"] ["Busy", "0"] env {} (by decide) (by decide +kernel) (by decide)
    (by decide +kernel) henv
  exact ⟨env, henv, rfl, congrArg Prod.fst hload, h, hcreate, hlength, hread⟩

end TeamPresence

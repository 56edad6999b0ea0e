import NetworkPlan.Proofs.Address.Grammar
import NetworkPlan.Proofs.Validation.Redis

/-!
# Durations of maintenance windows

A duration in hours is written as a number of hours between the marks `PT` and `H`.  The Redis
section is checked for the two marks alone, so a section in which all else fits together is
accepted with such a duration, and with any other text between the marks as well.
-/

namespace NetworkPlan

namespace Section

/-- Two sections say the same in every member but one. -/
def AgreesExcept (key : String) (s t : Section) : Prop :=
  forall other, other ≠ key -> s.get? other = t.get? other

variable {s t : Section} {key other : String}

theorem AgreesExcept.get?_eq (h : s.AgreesExcept key t) (hother : other ≠ key) :
    s.get? other = t.get? other :=
  h other hother

theorem AgreesExcept.counts_iff (h : s.AgreesExcept key t) (hother : other ≠ key)
    {p : Int -> Prop} : s.Counts other p ↔ t.Counts other p := by
  rw [Counts, Counts, integer?, integer?, h.get?_eq hother]

theorem AgreesExcept.affirms_iff (h : s.AgreesExcept key t) (hother : other ≠ key) :
    s.Affirms other ↔ t.Affirms other := by
  rw [Affirms, Affirms, bool?, bool?, h.get?_eq hother]

theorem agreesExcept_put (path key : String) (members : List (String × Json)) (v w : Json) :
    AgreesExcept key ⟨path, some (Entries.put key v members)⟩
      ⟨path, some (Entries.put key w members)⟩ := by
  intro other hother
  simp only [get?, Option.bind_some, Entries.get?_put, if_neg (Ne.symm hother)]

end Section

namespace Json

theorem string?_eq_some_iff {d : Json} {text : String} :
    d.string? = some text ↔ d = .string text := by
  cases d <;> simp [string?]

/-- A number of hours between the marks of a duration. -/
def HourDuration (d : Json) : Prop :=
  exists (hours : String) (n : Nat), Text.Numeral hours.toList n ∧ d = .string ("PT" ++ hours ++ "H")

/-- Something else between the marks of a duration. -/
def MalformedDuration (d : Json) : Prop :=
  exists middle : String, (forall n, ¬ Text.Numeral middle.toList n) ∧
    d = .string ("PT" ++ middle ++ "H")

end Json

namespace Validation

theorem between_marks_iff {text : String} :
    "PT".toList <+: text.toList ∧ "H".toList <:+ text.toList ↔
      exists middle : String, text = "PT" ++ middle ++ "H" := by
  constructor
  · rintro ⟨⟨rest, hrest⟩, start, hstart⟩
    have hends := hstart.trans hrest.symm
    -- The second mark is no part of the first one, so it ends what comes behind the first one.
    rcases List.eq_nil_or_concat' rest with rfl | ⟨middle, last, rfl⟩
    · have hlast := congrArg List.getLast? hends
      simp at hlast
    · rw [← List.append_assoc] at hends hrest
      rcases List.append_inj' hends rfl with ⟨_, hlast⟩
      refine ⟨String.ofList middle, String.toList_inj.mp ?_⟩
      rw [← hrest, ← hlast]
      simp
  · rintro ⟨middle, rfl⟩
    exact ⟨⟨middle.toList ++ ['H'], by simp⟩, 'P' :: 'T' :: middle.toList, by simp⟩

theorem exists_between_marks_iff {d : Json} :
    (exists text, d.string? = some text ∧
        "PT".toList <+: text.toList ∧ "H".toList <:+ text.toList) ↔
      d.HourDuration ∨ d.MalformedDuration := by
  simp only [between_marks_iff, Json.string?_eq_some_iff]
  constructor
  · rintro ⟨text, rfl, middle, rfl⟩
    by_cases hmiddle : exists n, Text.Numeral middle.toList n
    · rcases hmiddle with ⟨n, hn⟩
      exact Or.inl ⟨middle, n, hn, rfl⟩
    · exact Or.inr ⟨middle, fun n hn => hmiddle ⟨n, hn⟩, rfl⟩
  · rintro (⟨hours, n, _, rfl⟩ | ⟨middle, _, rfl⟩)
    · exact ⟨_, rfl, hours, rfl⟩
    · exact ⟨_, rfl, middle, rfl⟩

/-!
## The other members
-/

variable {redis other : Section}

theorem window_of_checkRedis (h : (checkRedis redis).findings = [])
    (hcustom : redis.Affirms "enableCustomMaintenanceWindow") :
    exists window, redis.child? "maintenanceWindow" = some window ∧
      AcceptableRedisWindow window := by
  rw [findings_checkRedis_eq_nil_iff] at h
  rcases h with ⟨_, _, _, _, _, _, _, _, _, _, _, _, _, _, _, hwindow, _⟩
  rcases hwindow hcustom with ⟨window, hchild, hfindings⟩
  exact ⟨window, hchild, findings_checkRedisWindow_eq_nil_iff.mp hfindings⟩

theorem value_checkZones_eq (h : redis.get? "zones" = other.get? "zones") :
    (checkZones redis).value = (checkZones other).value := by
  unfold checkZones
  rw [h]
  split <;> rfl

/-- What a section says of its maintenance window does not bear on its other members. -/
theorem checkRedis_of_agrees (hagrees : redis.AgreesExcept "maintenanceWindow" other)
    (hother : (checkRedis other).findings = [])
    (hwindow : exists window, redis.child? "maintenanceWindow" = some window ∧
      AcceptableRedisWindow window) : (checkRedis redis).findings = [] := by
  have hzones := value_checkZones_eq (hagrees "zones" (by decide))
  -- Every condition is one on what the members say, and all but the window say the same in both.
  simp (disch := decide) only [findings_checkRedis_eq_nil_iff, findings_checkCapacity_eq_nil_iff,
    findings_checkZones_eq_nil_iff, findings_checkZonalPolicy_eq_nil_iff,
    findings_checkReplication_eq_nil_iff, findings_checkBackups_eq_nil_iff,
    findings_checkRedisWindow_eq_nil_iff, hzones, Section.Chooses, Section.Counts, Section.Decides,
    Section.Affirms, Section.trimmed?, Section.integer?, Section.bool?, Section.string?,
    hagrees.get?_eq] at hother ⊢
  rcases hother with ⟨hproduct, hcapacity, hshards, hstrategy, hbounds, hpolicy, hnames, hreplicas,
    hreplication, hentra, hkeys, hzonal, hreplicated, hauthentication, hcustom, _, hbackups⟩
  exact ⟨hproduct, hcapacity, hshards, hstrategy, hbounds, hpolicy, hnames, hreplicas,
    hreplication, hentra, hkeys, hzonal, hreplicated, hauthentication, hcustom, fun _ => hwindow,
    hbackups⟩

/-!
## The duration
-/

/-- A section that is accepted once the duration of its maintenance window is another one. -/
def AcceptableButDuration (redis window : Section) : Prop :=
  exists other window', (checkRedis other).findings = [] ∧
    redis.AgreesExcept "maintenanceWindow" other ∧
    other.child? "maintenanceWindow" = some window' ∧ window.AgreesExcept "duration" window'

/-- The duration is accepted exactly if it has both marks: a number of hours between them is
accepted, and so is anything else. -/
theorem durations_accepted_between_marks {redis window : Section} {d : Json}
    (hcustom : redis.Affirms "enableCustomMaintenanceWindow")
    (hwindow : redis.child? "maintenanceWindow" = some window)
    (hduration : window.get? "duration" = some d) (hother : AcceptableButDuration redis window) :
    (checkRedis redis).findings = [] ↔ d.HourDuration ∨ d.MalformedDuration := by
  have hstring : window.string? "duration" = d.string? := by
    rw [Section.string?, hduration]
    rfl
  rw [← exists_between_marks_iff, ← hstring]
  constructor
  · intro h
    rcases window_of_checkRedis h hcustom with ⟨found, hfound, hacceptable⟩
    rw [hwindow, Option.some.injEq] at hfound
    rw [hfound]
    exact hacceptable.duration
  · intro h
    rcases hother with ⟨other, window', haccepted, hagrees, hwindow', hsame⟩
    have hcustom' := (hagrees.affirms_iff (by decide)).mp hcustom
    rcases window_of_checkRedis haccepted hcustom' with ⟨found, hfound, hacceptable⟩
    rw [hwindow', Option.some.injEq] at hfound
    rw [← hfound] at hacceptable
    refine checkRedis_of_agrees hagrees haccepted ⟨window, hwindow, ?_⟩
    exact
      { day := (hsame.counts_iff (by decide)).mpr hacceptable.day
        hour := (hsame.counts_iff (by decide)).mpr hacceptable.hour
        duration := h }

/-- The members of a maintenance window with a given duration. -/
def windowMembers (d : Json) : List (String × Json) :=
  Entries.put "duration" d [("dayOfWeek", .ofNat 6), ("startHour", .ofNat 23)]

def windowLasting (d : Json) : Section :=
  ⟨"redis.maintenanceWindow", some (windowMembers d)⟩

/-- A section with such a window, in which all else fits together. -/
def redisWithWindow (d : Json) : Section :=
  ⟨"redis", some (Entries.put "maintenanceWindow" (.object (windowMembers d)) [
    ("skuName", .string "Premium"), ("capacity", .ofNat 6), ("shardCount", .ofNat 2),
    ("scaleStrategy", .string "horizontal"), ("zonalAllocationPolicy", .string "UserDefined"),
    ("zones", Json.strings ["1", "3"]), ("replicasPerMaster", .ofNat 1),
    ("enableGeoReplication", .bool true), ("enableMicrosoftEntraAuthentication", .bool true),
    ("disableAccessKeyAuthentication", .bool true), ("enableCustomMaintenanceWindow", .bool true),
    ("enableRdbBackup", .bool false), ("rdbBackupFrequencyInMinutes", .ofNat 60),
    ("rdbBackupMaxSnapshotCount", .ofNat 1), ("rdbStorageConnectionString", .string "")])⟩

theorem affirms_redisWithWindow (d : Json) :
    (redisWithWindow d).Affirms "enableCustomMaintenanceWindow" :=
  rfl

theorem child?_redisWithWindow (d : Json) :
    (redisWithWindow d).child? "maintenanceWindow" = some (windowLasting d) :=
  rfl

theorem acceptableButDuration_redisWithWindow (d : Json) :
    AcceptableButDuration (redisWithWindow d) (windowLasting d) :=
  ⟨redisWithWindow (.string "PT5H"), _, rfl,
    Section.agreesExcept_put _ _ _ _ _, child?_redisWithWindow _,
    Section.agreesExcept_put _ _ _ _ _⟩

theorem duration_accepted_of_twelve_hours :
    let d := Json.string "PT12H"
    (redisWithWindow d).Affirms "enableCustomMaintenanceWindow" ∧
    (redisWithWindow d).child? "maintenanceWindow" = some (windowLasting d) ∧
    (windowLasting d).get? "duration" = some d ∧
    AcceptableButDuration (redisWithWindow d) (windowLasting d) ∧
    (checkRedis (redisWithWindow d)).findings = [] := by
  intro d
  have hduration : d.HourDuration :=
    ⟨"12", 12, Text.numeral?_eq_some_iff_numeral.mp rfl, rfl⟩
  have hother := acceptableButDuration_redisWithWindow d
  have haccepted := durations_accepted_between_marks (affirms_redisWithWindow d)
    (child?_redisWithWindow d) rfl hother
  exact ⟨rfl, child?_redisWithWindow d, rfl, hother, haccepted.mpr (Or.inl hduration)⟩

/-- A duration that gives no hours is accepted. -/
theorem duration_without_hours_accepted :
    let d := Json.string "PTH"
    (redisWithWindow d).Affirms "enableCustomMaintenanceWindow" ∧
    (redisWithWindow d).child? "maintenanceWindow" = some (windowLasting d) ∧
    (windowLasting d).get? "duration" = some d ∧
    AcceptableButDuration (redisWithWindow d) (windowLasting d) ∧
    (checkRedis (redisWithWindow d)).findings = [] ∧ ¬ d.HourDuration := by
  intro d
  refine ⟨rfl, child?_redisWithWindow d, rfl, acceptableButDuration_redisWithWindow d,
    rfl, ?_⟩
  rintro ⟨hours, n, hnumeral, heq⟩
  have htext := congrArg String.toList (Json.string.inj heq)
  have hempty : hours.toList = [] := by
    simpa using htext
  exact hnumeral.ne_nil hempty

end Validation
end NetworkPlan

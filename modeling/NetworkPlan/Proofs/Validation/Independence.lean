import NetworkPlan.Proofs.Validation.Places

/-!
# Sections are validated independently

One pass reports the problems of every section.  What it reports about one section does not depend
on what is in another, except that the service range of the cluster is compared with the address
ranges of the network.
-/

namespace NetworkPlan

/-- Two lists of members agree on every name but one. -/
def Entries.AgreeExcept {α : Type} (key : String) (a b : Entries α) : Prop :=
  forall other, other ≠ key -> get? other a = get? other b

namespace Validation

open Checked

/-- A line is about a section: it begins with the path of the section or of something inside. -/
def About (key line : String) : Prop :=
  (key ++ ":").toList <+: line.toList ∨ (key ++ ".").toList <+: line.toList

/-- A line says that the service range meets the virtual network. -/
def AboutOverlap (line : String) : Prop :=
  "aks.serviceCidr: must not overlap network.vnetAddressPrefixes".toList <+: line.toList

/-- A line comes from the subnet document. -/
def AboutSubnets (line : String) : Prop :=
  "subnetDefinitions".toList <+: line.toList

instance (key line : String) : Decidable (About key line) :=
  inferInstanceAs (Decidable (_ ∨ _))

instance (line : String) : Decidable (AboutOverlap line) :=
  inferInstanceAs (Decidable (_ <+: _))

instance (line : String) : Decidable (AboutSubnets line) :=
  inferInstanceAs (Decidable (_ <+: _))

/-- The lines of a check that are kept, in order. -/
def kept {α : Type} (keep : String -> Bool) (x : Checked α) : List String :=
  (x.findings.map Finding.line).filter keep

section Kept

variable {α β : Type} {keep : String -> Bool} {x y : Checked α}

theorem kept_bind (f : α -> Checked β) :
    kept keep (x >>= f) = kept keep x ++ kept keep (f x.value) := by
  simp [kept]

theorem kept_ite {c : Prop} [Decidable c] :
    kept keep (if c then x else y) = if c then kept keep x else kept keep y :=
  apply_ite _ _ _ _

theorem kept_eq_nil (h : forall f, f ∈ x.findings -> keep f.line = false) : kept keep x = [] := by
  simpa [kept] using h

theorem kept_each_eq_nil {check : β -> Checked Unit} {items : List β}
    (h : forall item, item ∈ items -> kept keep (check item) = []) :
    kept keep (each check items) = [] := by
  induction items with
  | nil =>
      rfl
  | cons item rest ih =>
      rcases List.forall_mem_cons.mp h with ⟨hitem, hrest⟩
      rw [each, kept_bind, hitem, ih hrest, List.append_nil]

theorem prefix_line {start : String} {f : Finding} (h : start.toList <+: f.path.toList) :
    start.toList <+: f.line.toList := by
  simp only [Finding.line, toString, String.toList_append, List.append_assoc]
  exact h.trans (List.prefix_append _ _)

end Kept

/-!
## Two common documents that agree on every section but one
-/

section TwoDocuments

variable {α : Type} {key other : String} {a b : List (String × Json)} {keep : String -> Bool}

theorem subsection_eq (h : Entries.AgreeExcept key a b) (hother : other ≠ key) :
    (Section.root (.object a)).subsection other = (Section.root (.object b)).subsection other := by
  have hget : (Section.root (.object a)).get? other = (Section.root (.object b)).get? other :=
    h other hother
  unfold Section.subsection
  rw [hget]
  rfl

theorem path_subsection {s : Section} : (s.subsection key).value.path = s.pathTo key := by
  unfold Section.subsection
  split <;> rfl

theorem pathTo_root : (Section.root (.object a)).pathTo key = key := rfl

theorem about_of_mem_subsection {f : Finding}
    (hf : f ∈ ((Section.root (.object a)).subsection key).findings) : About key f.line := by
  have hpath : f.path = key := by
    unfold Section.subsection at hf
    split at hf
    · cases hf
    · rw [findings_bind, findings_report, findings_pure, List.append_nil,
        List.mem_singleton] at hf
      rw [hf, pathTo_root]
  left
  simp [Finding.line, hpath, toString, List.append_assoc, List.prefix_append_right_inj]

theorem inside_subsection (hkey : key ≠ "") :
    ((Section.root (.object a)).subsection key).value.Inside (key ++ ".") := by
  have hpath : ((Section.root (.object a)).subsection key).value.path = key :=
    path_subsection.trans pathTo_root
  have hinside := Section.inside_self (hpath.symm ▸ hkey :
    ((Section.root (.object a)).subsection key).value.path ≠ "")
  rw [hpath] at hinside
  exact hinside

section Nothing

variable (hkeep : forall line, About other line -> keep line = false)
include hkeep

theorem kept_subsection_eq_nil : kept keep ((Section.root (.object a)).subsection other) = [] :=
  kept_eq_nil fun _ hf => hkeep _ (about_of_mem_subsection hf)

theorem kept_check_eq_nil (hother : other ≠ "") {check : Section -> Checked α}
    (hcheck : forall {s : Section}, s.Inside (other ++ ".") -> (check s).Within (other ++ ".")) :
    kept keep (check ((Section.root (.object a)).subsection other).value) = [] :=
  kept_eq_nil fun f hf => hkeep _ (Or.inr (prefix_line (hcheck (inside_subsection hother) f hf)))

end Nothing

variable (hagree : Entries.AgreeExcept key a b)
  (hkeep : forall line, About key line -> keep line = false)
include hagree hkeep

theorem kept_subsection_eq :
    kept keep ((Section.root (.object a)).subsection other) =
      kept keep ((Section.root (.object b)).subsection other) := by
  by_cases hsame : other = key
  · subst hsame
    rw [kept_subsection_eq_nil hkeep, kept_subsection_eq_nil hkeep]
  · rw [subsection_eq hagree hsame]

/-- A check of the section at a name finds the same in both, or only what is about the name at
which they differ. -/
theorem kept_check_eq (hother : other ≠ "") {check : Section -> Checked α}
    (hcheck : forall {s : Section}, s.Inside (other ++ ".") -> (check s).Within (other ++ ".")) :
    kept keep (check ((Section.root (.object a)).subsection other).value) =
      kept keep (check ((Section.root (.object b)).subsection other).value) := by
  by_cases hsame : other = key
  · subst hsame
    rw [kept_check_eq_nil hkeep hother hcheck, kept_check_eq_nil hkeep hother hcheck]
  · rw [subsection_eq hagree hsame]

/-- The check of the cluster is also given the address ranges of the network; what it does with
them is asked for separately. -/
theorem kept_checkSections_eq (hcluster : forall s : Section, s.path = "aks" ->
      kept keep (checkCluster s
        (checkNetwork ((Section.root (.object a)).subsection "network").value).value) =
      kept keep (checkCluster s
        (checkNetwork ((Section.root (.object b)).subsection "network").value).value)) :
    kept keep (checkSections (Section.root (.object a))) =
      kept keep (checkSections (Section.root (.object b))) := by
  simp only [checkSections, checkToggles, kept_bind, kept_subsection_eq hagree hkeep]
  rw [kept_check_eq hagree hkeep (by decide : "common" ≠ "") within_checkIdentity,
    kept_check_eq hagree hkeep (by decide : "network" ≠ "") within_checkNetwork,
    kept_check_eq hagree hkeep (by decide : "aks" ≠ "") (fun h => within_checkCluster h _),
    hcluster _ path_subsection,
    kept_check_eq hagree hkeep (by decide : "postgres" ≠ "") within_checkPostgres,
    kept_check_eq hagree hkeep (by decide : "redis" ≠ "") within_checkRedis,
    kept_check_eq hagree hkeep (by decide : "cosno" ≠ "") within_checkCosmos,
    kept_check_eq hagree hkeep (by decide : "resourceToggles" ≠ "") within_toggles]

end TwoDocuments

/-!
## The service range and the network
-/

theorem kept_checkServiceRange_eq {keep : String -> Bool}
    (hkeep : forall line, AboutOverlap line -> keep line = false) {aks : Section}
    (haks : aks.path = "aks") (pods : Option Block) (service : Block)
    (ranges ranges' : List Block) :
    kept keep (checkServiceRange aks pods ranges service) =
      kept keep (checkServiceRange aks pods ranges' service) := by
  have hnil (items : List Block) : kept keep (each (fun range => report (aks.pathTo "serviceCidr")
      s!"must not overlap network.vnetAddressPrefixes: serviceCidr={service}, vnet={range}")
      items) = [] := by
    refine kept_each_eq_nil fun range _ => kept_eq_nil fun f hf => hkeep _ ?_
    rw [List.mem_singleton.mp hf]
    simp [AboutOverlap, Finding.line, Section.pathTo, haks, toString]
  cases pods <;> simp only [checkServiceRange, kept_bind, kept_ite, hnil]

theorem kept_checkCluster_eq {keep : String -> Bool}
    (hkeep : forall line, AboutOverlap line -> keep line = false) {aks : Section}
    (haks : aks.path = "aks") (ranges ranges' : List Block) :
    kept keep (checkCluster aks ranges) = kept keep (checkCluster aks ranges') := by
  cases hservice : (aks.block "serviceCidr").value with
  | none =>
      simp only [checkCluster, kept_bind, hservice]
  | some service =>
      simp only [checkCluster, kept_bind, hservice]
      rw [kept_checkServiceRange_eq hkeep haks _ _ ranges ranges']

/-!
## The two documents
-/

/-- The sections of the common document. -/
def sectionNames : List String := [
  "common", "network", "aks", "postgres", "redis", "cosno", "resourceToggles"]

/-- The sections without address ranges. -/
def otherSections : List String := ["common", "postgres", "redis", "cosno", "resourceToggles"]

/-- Where no line about the other sections is kept, those that are kept come from the network and
the cluster. -/
theorem kept_checkSections_of_others {keep : String -> Bool} {members : List (String × Json)}
    (hkeep : forall key, key ∈ otherSections -> forall line, About key line -> keep line = false) :
    kept keep (checkSections (Section.root (.object members))) =
      kept keep ((Section.root (.object members)).subsection "network") ++
        (kept keep ((Section.root (.object members)).subsection "aks") ++
          (kept keep (checkNetwork ((Section.root (.object members)).subsection "network").value) ++
            kept keep (checkCluster ((Section.root (.object members)).subsection "aks").value
              (checkNetwork
                ((Section.root (.object members)).subsection "network").value).value))) := by
  simp only [otherSections, List.forall_mem_cons] at hkeep
  rcases hkeep with ⟨hcommon, hpostgres, hredis, hcosmos, htoggles, _⟩
  simp only [checkSections, checkToggles, kept_bind]
  rw [kept_subsection_eq_nil hcommon, kept_subsection_eq_nil hpostgres,
    kept_subsection_eq_nil hredis, kept_subsection_eq_nil hcosmos,
    kept_subsection_eq_nil htoggles,
    kept_check_eq_nil hcommon (by decide : "common" ≠ "") within_checkIdentity,
    kept_check_eq_nil hpostgres (by decide : "postgres" ≠ "") within_checkPostgres,
    kept_check_eq_nil hredis (by decide : "redis" ≠ "") within_checkRedis,
    kept_check_eq_nil hcosmos (by decide : "cosno" ≠ "") within_checkCosmos,
    kept_check_eq_nil htoggles (by decide : "resourceToggles" ≠ "") within_toggles]
  simp only [List.nil_append, List.append_nil]

theorem not_aboutSubnets {key line : String} (h : About key line)
    (hkey : key ∈ sectionNames) : ¬ AboutSubnets line := by
  intro hsubnets
  have hkeyLine : key.toList <+: line.toList := by
    rcases h with h | h <;> exact (by simp : key.toList <+: _).trans h
  have hcomparable := List.prefix_or_prefix_of_prefix hkeyLine hsubnets
  simp only [sectionNames, List.mem_cons, List.not_mem_nil, or_false] at hkey
  rcases hkey with rfl | rfl | rfl | rfl | rfl | rfl | rfl <;> simp at hcomparable

/-- No line about the common document looks like one about the subnet document. -/
theorem kept_aboutSubnets_checkCommon (common : Json) :
    kept (fun line => AboutSubnets line) (checkCommon common) = [] := by
  have hkeep {key : String} (hkey : key ∈ sectionNames) (line : String) (h : About key line) :
      decide (AboutSubnets line) = false :=
    decide_eq_false (not_aboutSubnets h hkey)
  cases common with
  | object members =>
      show kept _ (checkSections _) = []
      have hothers : otherSections ⊆ sectionNames := by decide
      rw [kept_checkSections_of_others fun key hkey => hkeep (hothers hkey),
        kept_subsection_eq_nil (hkeep (by decide)), kept_subsection_eq_nil (hkeep (by decide)),
        kept_check_eq_nil (hkeep (by decide)) (by decide : "network" ≠ "") within_checkNetwork,
        kept_check_eq_nil (hkeep (by decide)) (by decide : "aks" ≠ "")
          (fun h => within_checkCluster h _)]
      rfl
  | _ =>
      refine kept_eq_nil fun f hf => decide_eq_false ?_
      rw [List.mem_singleton.mp hf]
      simp [AboutSubnets, Finding.line, toString]

theorem kept_aboutSubnets_checkSubnets (subnets : Json) :
    kept (fun line => ¬ AboutSubnets line) (checkSubnets subnets) = [] := by
  refine kept_eq_nil fun f hf => ?_
  rw [decide_eq_false_iff_not, Decidable.not_not]
  exact prefix_line (within_checkSubnets subnets f hf)

theorem filter_validationLines (keep : String -> Bool) (common subnets : Json) :
    (validationLines common subnets).filter keep =
      kept keep (checkCommon common) ++ kept keep (checkSubnets subnets) := by
  exact kept_bind _

end Validation

open Validation

end NetworkPlan


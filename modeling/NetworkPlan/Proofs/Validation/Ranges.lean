import NetworkPlan.Proofs.Address.Conflicts
import NetworkPlan.Proofs.Address.Hosts
import NetworkPlan.Proofs.Text.Trim
import NetworkPlan.Proofs.Validation.Checks
import NetworkPlan.Proofs.Validation.Independence

/-!
# Address ranges that meet

Validation compares the ranges of the virtual network with each other, and the service range of the
cluster with them and with the pod range.  The lines about that are told from all others by how
they begin, so each comparison can be read off the report of the whole document.
-/

namespace NetworkPlan
namespace Validation

open Checked

/-- The block that a value is the text of. -/
def block? : Json -> Option Block
  | .string text => (Block.parseNetwork text).toOption
  | _ => none

/-- The address ranges of a network section that can be read, in order. -/
def rangesOf (network : List (String × Json)) : List Block :=
  match Entries.get? "vnetAddressPrefixes" network with
  | some (.array items) => items.filterMap block?
  | _ => []

def Begins (start line : String) : Prop :=
  start.toList <+: line.toList

instance (start line : String) : Decidable (Begins start line) :=
  inferInstanceAs (Decidable (_ <+: _))

/-- No line begins with both texts. -/
def Apart (start other : String) : Prop :=
  ¬ Begins start other ∧ ¬ Begins other start

instance (start other : String) : Decidable (Apart start other) :=
  inferInstanceAs (Decidable (_ ∧ _))

/-!
## What is reported
-/

def overlapFound (pair : Block × Block) : Finding :=
  ⟨"network.vnetAddressPrefixes", s!"ranges overlap ({pair.1} and {pair.2})"⟩

def networkFound (service range : Block) : Finding :=
  ⟨"aks.serviceCidr",
    s!"must not overlap network.vnetAddressPrefixes: serviceCidr={service}, vnet={range}"⟩

def podsFound (service pods : Block) : Finding :=
  ⟨"aks.podCidr", s!"must not overlap aks.serviceCidr ({pods} and {service})"⟩

def hostsFound (service : Block) : Finding :=
  ⟨"aks.serviceCidr",
    s!"needs at least {10} usable addresses to derive the DNS service IP, "
      ++ s!"{service} has {service.usableHosts}"⟩

/-- What a report says about address ranges: each pair of ranges of the network with an address in
common, each of those ranges that meets the service range, the pod range if that meets it, and the
service range if it has fewer than ten hosts. -/
structure RangesReported (ranges : List Block) (pods service : Option Block)
    (lines : List String) : Prop where
  overlaps : exists places,
    Enumerates (Prod.Lex (· < ·) (· < ·)) (Block.InConflict ranges) places ∧
      List.Forall₂ (fun place line => exists pair, Block.StandAt ranges place pair ∧
        line = (overlapFound pair).line)
        places (lines.filter fun line => Begins "network.vnetAddressPrefixes: ranges overlap " line)
  network : (lines.filter fun line => Begins "aks.serviceCidr: must not overlap " line) =
    service.toList.flatMap fun service =>
      (ranges.filter fun range => range.Meets service).map fun range =>
        (networkFound service range).line
  pods : (lines.filter fun line => Begins "aks.podCidr: must not overlap " line) =
    service.toList.flatMap fun service =>
      (pods.toList.filter fun pods => pods.Meets service).map fun pods =>
        (podsFound service pods).line
  hosts : (lines.filter fun line => Begins "aks.serviceCidr: needs at least " line) =
    (service.toList.filter fun service => service.hosts.ncard < 10).map fun service =>
      (hostsFound service).line

/-!
## Lines that begin with a text
-/

section Lines

variable {α β : Type} {start other path problem : String} {keep : String -> Bool}

theorem not_begins_of_apart (hapart : Apart start other) {line : String}
    (hother : Begins other line) : ¬ Begins start line := by
  intro hstart
  rcases List.prefix_or_prefix_of_prefix hstart hother with h | h
  · exact hapart.left h
  · exact hapart.right h

theorem kept_of_within {x : Checked α} (h : x.Within other) (hapart : Apart start other) :
    kept (fun line => Begins start line) x = [] :=
  kept_eq_nil fun f hf => decide_eq_false (not_begins_of_apart hapart (prefix_line (h f hf)))

theorem kept_pure (a : α) : kept keep (pure a) = [] := rfl

theorem kept_report :
    kept keep (report path problem) =
      if keep (Finding.line ⟨path, problem⟩) then [Finding.line ⟨path, problem⟩] else [] := by
  simp [kept, List.filter_cons]

theorem kept_missing_eq_nil (hapart : Apart start other)
    (h : Begins other (Finding.line ⟨path, problem⟩)) :
    kept (fun line => Begins start line) (missing path problem : Checked (Option α)) = [] := by
  refine kept_eq_nil fun f hf => decide_eq_false (not_begins_of_apart hapart ?_)
  rw [List.mem_singleton.mp hf]
  exact h

theorem findings_each_report (problems : β -> String) (items : List β) :
    (each (fun item => report path (problems item)) items).findings =
      items.map fun item => ⟨path, problems item⟩ := by
  induction items with
  | nil =>
      rfl
  | cons item rest ih =>
      rw [each, findings_bind, ih]
      rfl

theorem kept_each_report (problems : β -> String) (items : List β)
    (h : forall item, keep (Finding.line ⟨path, problems item⟩) = true) :
    kept keep (each (fun item => report path (problems item)) items) =
      items.map fun item => Finding.line ⟨path, problems item⟩ := by
  rw [kept, findings_each_report, List.map_map]
  refine List.filter_eq_self.mpr fun line hline => ?_
  rcases List.mem_map.mp hline with ⟨item, _, rfl⟩
  exact h item

end Lines

/-!
## Blocks
-/

theorem block?_of_blank {text : String} (h : Text.nonBlank? text = none) :
    block? (.string text) = none := by
  have hblank : Text.trim text = "" := by
    by_contra hne
    rw [Text.nonBlank?_eq_some_iff.mpr ⟨rfl, hne⟩] at h
    cases h
  rw [block?, ← Block.parseNetwork_trim, hblank]
  rfl

theorem value_blockValue (value : Option Json) (path : String) :
    (Section.blockValue value path).value = value.bind block? := by
  unfold Section.blockValue
  cases value with
  | none =>
      rfl
  | some value =>
      cases value with
      | string text =>
          cases htext : Text.nonBlank? text with
          | none =>
              simp [htext, missing, block?_of_blank]
          | some trimmed =>
              cases hparse : Block.parseNetwork text <;>
                simp [htext, hparse, missing, block?, Except.toOption]
      | _ =>
          rfl

theorem value_checkBlocks (path : String) (index : Nat) (items : List Json) :
    (checkBlocks path index items).value = items.filterMap block? := by
  induction items generalizing index with
  | nil =>
      rfl
  | cons item rest ih =>
      simp only [checkBlocks, value_bind, value_pure, value_blockValue, ih, Option.bind_some]
      cases hitem : block? item <;> simp [hitem]

/-!
## The network
-/

section Network

variable (network : List (String × Json))

theorem get?_section (path key : String) (members : List (String × Json)) :
    (⟨path, some members⟩ : Section).get? key = Entries.get? key members := rfl

theorem prefix_bracket {path : String} (i : Nat) :
    (path ++ "[").toList <+: s!"{path}[{i}]".toList := by
  simp [toString]

theorem kept_checkRanges :
    kept (fun line => Begins "network.vnetAddressPrefixes: ranges overlap " line)
        (checkRanges ⟨"network", some network⟩) =
      (Block.conflicts (rangesOf network)).map fun pair => (overlapFound pair).line := by
  have hpath : (⟨"network", some network⟩ : Section).pathTo "vnetAddressPrefixes" =
      "network.vnetAddressPrefixes" := rfl
  have hfailure : kept (fun line => Begins "network.vnetAddressPrefixes: ranges overlap " line)
      (report "network.vnetAddressPrefixes" "must be an array of one or more CIDRs") = [] := by
    rw [kept_report, if_neg (by decide)]
  unfold checkRanges rangesOf
  rw [get?_section, hpath]
  cases Entries.get? "vnetAddressPrefixes" network with
  | none =>
      exact hfailure
  | some value =>
      cases value with
      | array items =>
          cases items with
          | nil =>
              exact hfailure
          | cons item rest =>
              simp only [kept_bind, value_checkBlocks, kept_pure, List.append_nil]
              rw [kept_of_within (within_checkBlocks prefix_bracket 0 _) (by decide),
                List.nil_append]
              refine kept_each_report _ _ fun pair => decide_eq_true ?_
              simp [Begins, Finding.line, toString]
      | _ =>
          exact hfailure

theorem value_checkRanges :
    (checkRanges ⟨"network", some network⟩).value = rangesOf network := by
  unfold checkRanges rangesOf
  rw [get?_section]
  cases Entries.get? "vnetAddressPrefixes" network with
  | none =>
      rfl
  | some value =>
      cases value with
      | array items =>
          cases items with
          | nil => rfl
          | cons item rest => exact value_checkBlocks _ 0 (item :: rest)
      | _ =>
          rfl

theorem value_checkNetwork :
    (checkNetwork ⟨"network", some network⟩).value = rangesOf network :=
  value_checkRanges network

/-- Only the check of the ranges says that two of them meet. -/
theorem kept_checkNetwork :
    kept (fun line => Begins "network.vnetAddressPrefixes: ranges overlap " line)
        (checkNetwork ⟨"network", some network⟩) =
      (Block.conflicts (rangesOf network)).map fun pair => (overlapFound pair).line := by
  have hmember (key : String) : ("network." ++ key).toList <+:
      ((⟨"network", some network⟩ : Section).pathTo key).toList := by
    simp [Section.pathTo, toString]
  simp only [checkNetwork, kept_bind, kept_pure]
  rw [kept_of_within (Section.within_bool (hmember "enableFirewallIdps")) (by decide),
    kept_of_within (Section.within_bool (hmember "enableDdosProtection")) (by decide),
    kept_of_within (Section.within_bool (hmember "enableGatewayRoutePropagation")) (by decide),
    kept_of_within (Section.within_bool (hmember "enableCentralizedPrivateDns")) (by decide),
    kept_of_within (within_checkProtectionPlan (hmember "ddosProtectionPlanId") _) (by decide),
    kept_of_within (Section.within_optionalAddress (hmember "egressNextHopIp")) (by decide),
    kept_of_within (Section.within_optionalAddressOrBlock (hmember "sharedBastionIp"))
      (by decide),
    kept_of_within (within_checkNameServers (hmember "vnetDnsServers")) (by decide)]
  simp only [List.nil_append, List.append_nil, kept_checkRanges]

end Network

/-!
## The cluster
-/

section Cluster

variable (cluster : List (String × Json)) {start : String}

/-- What other lines about the cluster begin with. -/
def clusterStarts : List String :=
  ["aks.userPool", "aks.podCidr" ++ ": must be", "aks.podCidr" ++ ": is not",
    "aks.serviceCidr" ++ ": must be", "aks.serviceCidr" ++ ": is not"]

/-- A text that is no block is reported in one of two ways. -/
theorem kept_blockValue {value : Option Json} {path : String}
    (hmust : Apart start (path ++ ": must be")) (hnot : Apart start (path ++ ": is not")) :
    kept (fun line => Begins start line) (Section.blockValue value path) = [] := by
  have hfailure : kept (fun line => Begins start line)
      (missing path "must be a CIDR in x.x.x.x/nn form" : Checked (Option Block)) = [] :=
    kept_missing_eq_nil hmust (by simp [Begins, Finding.line, toString])
  unfold Section.blockValue
  split
  next text =>
    split
    · exact hfailure
    · split
      · rfl
      · exact kept_missing_eq_nil hnot (by simp [Begins, Finding.line, toString])
  next =>
    exact hfailure

theorem kept_checkCluster (h : forall other, other ∈ clusterStarts -> Apart start other)
    (ranges : List Block) :
    kept (fun line => Begins start line) (checkCluster ⟨"aks", some cluster⟩ ranges) =
      ((Entries.get? "serviceCidr" cluster).bind block?).toList.flatMap fun service =>
        kept (fun line => Begins start line)
          (checkServiceRange ⟨"aks", some cluster⟩ ((Entries.get? "podCidr" cluster).bind block?)
            ranges service) := by
  simp only [clusterStarts, List.forall_mem_cons] at h
  rcases h with ⟨hpool, hpodMust, hpodNot, hserviceMust, hserviceNot, _⟩
  have hmember {key : String} (hkey : Begins "userPool" key) :
      "aks.userPool".toList <+: ((⟨"aks", some cluster⟩ : Section).pathTo key).toList := by
    simpa [Section.pathTo, toString, Begins] using hkey
  have hpods : (⟨"aks", some cluster⟩ : Section).block "podCidr" =
      Section.blockValue (Entries.get? "podCidr" cluster) "aks.podCidr" := rfl
  have hservice : (⟨"aks", some cluster⟩ : Section).block "serviceCidr" =
      Section.blockValue (Entries.get? "serviceCidr" cluster) "aks.serviceCidr" := rfl
  simp only [checkCluster, kept_bind, hpods, hservice]
  rw [kept_of_within (Section.within_nonBlank (hmember (by decide))) hpool,
    kept_of_within (Section.within_int (hmember (by decide))) hpool,
    kept_of_within (Section.within_int (hmember (by decide))) hpool,
    kept_of_within (Section.within_int (hmember (by decide))) hpool,
    kept_of_within (Section.within_nonBlank (hmember (by decide))) hpool,
    kept_of_within (within_checkNodeCounts (hmember (by decide)) (hmember (by decide))
      (hmember (by decide)) _ _ _) hpool,
    kept_blockValue hpodMust hpodNot, kept_blockValue hserviceMust hserviceNot]
  simp only [List.nil_append, value_blockValue]
  cases (Entries.get? "serviceCidr" cluster).bind block? with
  | none =>
      rfl
  | some service =>
      simp

/-- The three comparisons of the service range, one after the other. -/
theorem findings_checkServiceRange (pods : Option Block) (ranges : List Block) (service : Block) :
    (checkServiceRange ⟨"aks", some cluster⟩ pods ranges service).findings =
      ([service].filter fun service => service.hosts.ncard < 10).map hostsFound ++
        (pods.toList.filter fun pods => pods.Meets service).map (podsFound service) ++
        (ranges.filter fun range => range.Meets service).map (networkFound service) := by
  have hpods : (⟨"aks", some cluster⟩ : Section).pathTo "podCidr" = "aks.podCidr" := rfl
  have hservice : (⟨"aks", some cluster⟩ : Section).pathTo "serviceCidr" = "aks.serviceCidr" := rfl
  have hleast : leastServiceHosts = 10 := rfl
  -- The path of the service range stands in the middle of the text about the pods.
  have htext : toString "must not overlap " ++ toString "aks.serviceCidr" ++ toString " (" =
      toString "must not overlap aks.serviceCidr (" := rfl
  have hranges : (each (fun range => report "aks.serviceCidr"
        s!"must not overlap network.vnetAddressPrefixes: serviceCidr={service}, vnet={range}")
      (ranges.filter (·.overlaps service))).findings =
        (ranges.filter fun range => range.Meets service).map (networkFound service) := by
    simp only [findings_each_report, Block.meets_iff_overlaps, Bool.decide_eq_true]
    rfl
  simp only [checkServiceRange, hleast, hpods, hservice, htext, Block.ncard_hosts]
  cases pods with
  | none =>
      by_cases hfew : service.usableHosts < 10
      · simp only [if_pos hfew, findings_bind, findings_report, hranges]
        simp [hfew, hostsFound]
      · simp only [if_neg hfew, hranges]
        simp [hfew]
  | some pods =>
      by_cases hfew : service.usableHosts < 10 <;> by_cases hmeets : pods.overlaps service = true
      · simp only [if_pos hfew, if_pos hmeets, findings_bind, findings_report, hranges]
        simp [hfew, hmeets, Block.meets_iff_overlaps, hostsFound, podsFound]
      · simp only [if_pos hfew, if_neg hmeets, findings_bind, findings_report, hranges]
        simp [hfew, hmeets, Block.meets_iff_overlaps, hostsFound]
      · simp only [if_neg hfew, if_pos hmeets, findings_bind, findings_report, hranges]
        simp [hfew, hmeets, Block.meets_iff_overlaps, podsFound]
      · simp only [if_neg hfew, if_neg hmeets, hranges]
        simp [hfew, hmeets, Block.meets_iff_overlaps]

end Cluster

/-!
## The whole document
-/

/-- What lines about other sections and about the subnets begin with. -/
def elsewhere : List String :=
  "subnetDefinitions" :: otherSections

theorem not_begins_of_about {key start line : String} (hapart : Apart start key)
    (habout : About key line) : ¬ Begins start line := by
  refine not_begins_of_apart hapart ?_
  rcases habout with h | h <;> exact (by simp : key.toList <+: _).trans h

section Document

variable {members network cluster : List (String × Json)} {start : String}
  (hnetwork : Entries.get? "network" members = some (.object network))
  (hcluster : Entries.get? "aks" members = some (.object cluster)) (subnets : Json)
include hnetwork hcluster

/-- Lines that begin like no line about another section come from the checks of the network and of
the cluster. -/
theorem filter_validationLines_eq
    (hstart : forall other, other ∈ elsewhere -> Apart start other) :
    (validationLines (.object members) subnets).filter (fun line => Begins start line) =
      kept (fun line => Begins start line) (checkNetwork ⟨"network", some network⟩) ++
        kept (fun line => Begins start line)
          (checkCluster ⟨"aks", some cluster⟩ (rangesOf network)) := by
  have hsection {key : String} {inner : List (String × Json)}
      (hget : Entries.get? key members = some (.object inner)) :
      (Section.root (.object members)).subsection key = pure ⟨key, some inner⟩ :=
    Section.subsection_eq_pure.mpr ⟨inner, hget, rfl⟩
  have hcommon : checkCommon (.object members) = checkSections (Section.root (.object members)) :=
    rfl
  have hothers (key : String) (hkey : key ∈ otherSections) (line : String) (h : About key line) :
      decide (Begins start line) = false :=
    decide_eq_false (not_begins_of_about (hstart key (List.mem_cons_of_mem _ hkey)) h)
  rw [filter_validationLines, hcommon,
    kept_of_within (within_checkSubnets subnets) (hstart _ List.mem_cons_self),
    List.append_nil, kept_checkSections_of_others hothers, hsection hnetwork, hsection hcluster,
    value_pure, value_pure, value_checkNetwork, kept_pure, kept_pure, List.nil_append,
    List.nil_append]

theorem filter_overlaps :
    (validationLines (.object members) subnets).filter
        (fun line => Begins "network.vnetAddressPrefixes: ranges overlap " line) =
      (Block.conflicts (rangesOf network)).map fun pair => (overlapFound pair).line := by
  have hinside : (⟨"aks", some cluster⟩ : Section).Inside "aks." :=
    fun key => by simp [Section.pathTo, toString]
  rw [filter_validationLines_eq hnetwork hcluster subnets (by decide), kept_checkNetwork,
    kept_of_within (within_checkCluster hinside _) (by decide), List.append_nil]

/-- Lines that begin like no other line come from the comparisons of the service range. -/
theorem filter_serviceRange
    (hstart : forall other, other ∈ "network." :: (clusterStarts ++ elsewhere) ->
      Apart start other) :
    (validationLines (.object members) subnets).filter (fun line => Begins start line) =
      ((Entries.get? "serviceCidr" cluster).bind block?).toList.flatMap fun service =>
        ((([service].filter fun service => service.hosts.ncard < 10).map hostsFound ++
          ((((Entries.get? "podCidr" cluster).bind block?).toList.filter
            fun pods => pods.Meets service).map (podsFound service)) ++
          ((rangesOf network).filter fun range => range.Meets service).map
            (networkFound service)).map Finding.line).filter fun line => Begins start line := by
  have hinside : (⟨"network", some network⟩ : Section).Inside "network." :=
    fun key => by simp [Section.pathTo, toString]
  rw [List.forall_mem_cons, List.forall_mem_append] at hstart
  rcases hstart with ⟨hsection, hcheck, hothers⟩
  rw [filter_validationLines_eq hnetwork hcluster subnets hothers,
    kept_of_within (within_checkNetwork hinside) hsection, List.nil_append,
    kept_checkCluster cluster hcheck]
  simp only [kept, findings_checkServiceRange]

end Document

end Validation
end NetworkPlan

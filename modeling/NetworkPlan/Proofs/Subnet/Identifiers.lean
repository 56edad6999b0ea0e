import Mathlib.Data.List.Pairwise
import NetworkPlan.Proofs.Subnet.Directory

/-!
# Names, aliases and tokens of a directory

A directory takes names and tokens to aliases and aliases to names and tokens.  Where names, aliases
and tokens differ between requests, the two ways are inverse to each other, whatever service tags
and selectors the directory is given later.
-/

namespace NetworkPlan

theorem eq_of_nodup_filterMap {α β : Type} {f : α -> Option β} {xs : List α}
    (h : (xs.filterMap f).Nodup) {a other : α} (ha : a ∈ xs) (hother : other ∈ xs) {b : β}
    (hb : f a = some b) (hsame : f other = some b) : a = other := by
  have : Std.Symm fun x y => forall c, f x = some c -> forall c', f y = some c' -> c ≠ c' :=
    ⟨fun _ _ hne c hc c' hc' => (hne c' hc' c hc).symm⟩
  by_contra hne
  exact (List.pairwise_filterMap.mp h).forall ha hother hne b hb b hsame rfl

namespace Directory

/-!
## Later additions
-/

/-- A directory with service tags and selectors that were added one after the other. -/
inductive Extends (base : Directory) : Directory -> Prop
  | refl : Extends base base
  | addServiceTags {d : Directory} (h : Extends base d) (tags : List String) :
      Extends base (d.addServiceTags tags)
  | addSelector {d : Directory} (h : Extends base d) (name : String) (selector : Selector) :
      Extends base (d.addSelector name selector)

/-- Directories answer alike about names, aliases, tokens and blocks. -/
structure SameIdentifiers (d other : Directory) : Prop where
  aliasForName : d.aliasForName = other.aliasForName
  nameForAlias : d.nameForAlias = other.nameForAlias
  aliasForToken : d.aliasForToken = other.aliasForToken
  tokenForAlias : d.tokenForAlias = other.tokenForAlias
  blockOf : d.blockOf = other.blockOf

variable {base d : Directory}

theorem Extends.same_entries (h : base.Extends d) :
    d.requests = base.requests ∧ d.subnets = base.subnets := by
  induction h with
  | refl =>
      exact ⟨rfl, rfl⟩
  | addServiceTags _ _ ih =>
      exact ih
  | addSelector _ _ _ ih =>
      exact ih

theorem Extends.sameIdentifiers (h : base.Extends d) : d.SameIdentifiers base := by
  rcases h.same_entries with ⟨hrequests, hsubnets⟩
  constructor
  case aliasForName =>
    funext name
    rw [Directory.aliasForName, Directory.aliasForName, hrequests]
  case nameForAlias =>
    funext aliasName
    rw [Directory.nameForAlias, Directory.nameForAlias, hrequests]
  case aliasForToken =>
    funext token
    rw [Directory.aliasForToken, Directory.aliasForToken, hrequests]
  case tokenForAlias =>
    funext aliasName
    rw [Directory.tokenForAlias, Directory.tokenForAlias, hrequests]
  case blockOf =>
    funext aliasName
    rw [Directory.blockOf, Directory.blockOf, hsubnets]

/-!
## One way and back
-/

theorem nameForAlias_eq_some_iff (hnodup : (d.requests.map (·.aliasName)).Nodup)
    {name aliasName : String} :
    d.nameForAlias aliasName = some name ↔
      exists r, r ∈ d.requests ∧ r.name = name ∧ r.aliasName = aliasName := by
  rw [nameForAlias, lastSome?_key_eq_some_iff hnodup]
  simp only [and_comm]

theorem tokenForAlias_eq_some_iff (hnodup : (d.requests.map (·.aliasName)).Nodup)
    {token aliasName : String} :
    d.tokenForAlias aliasName = some token ↔
      exists r, r ∈ d.requests ∧ r.aliasName = aliasName ∧ r.legacyToken = some token := by
  constructor
  · intro h
    rcases exists_of_lastSome? h with ⟨r, hr, htoken⟩
    split at htoken
    case isTrue halias =>
      exact ⟨r, hr, halias, htoken⟩
    case isFalse =>
      cases htoken
  · rintro ⟨r, hr, rfl, htoken⟩
    refine lastSome?_eq_some hr (by rw [if_pos rfl, htoken]) ?_
    intro other hother found hfound
    split at hfound
    case isTrue halias =>
      rw [List.inj_on_of_nodup_map hnodup hother hr halias, htoken] at hfound
      exact (Option.some.inj hfound).symm
    case isFalse =>
      cases hfound

theorem aliasForToken_eq_some_iff (hnodup : (d.requests.filterMap (·.legacyToken)).Nodup)
    {token aliasName : String} :
    d.aliasForToken token = some aliasName ↔
      exists r, r ∈ d.requests ∧ r.aliasName = aliasName ∧ r.legacyToken = some token := by
  constructor
  · intro h
    rcases exists_of_lastSome?_key h with ⟨r, hr, htoken, halias⟩
    exact ⟨r, hr, halias, htoken⟩
  · rintro ⟨r, hr, rfl, htoken⟩
    refine lastSome?_eq_some hr (if_pos htoken) ?_
    intro other hother found hfound
    split at hfound
    case isTrue hsame =>
      rw [eq_of_nodup_filterMap hnodup hother hr hsame htoken] at hfound
      exact (Option.some.inj hfound).symm
    case isFalse =>
      cases hfound

theorem blockOf_eq_some_iff (hnodup : (d.subnets.map (·.aliasName)).Nodup) {aliasName : String}
    {block : Block} :
    d.blockOf aliasName = some block ↔
      exists s, s ∈ d.subnets ∧ s.aliasName = aliasName ∧ s.block = block :=
  lastSome?_key_eq_some_iff hnodup

/-- Where the identifiers of requests differ, a directory takes a name to an alias exactly if it
takes the alias to the name, and so for tokens; these are the pairs that the requests have.  What is
added to the directory later does not change any answer. -/
theorem identifiers_inverse {requests : List SubnetRequest} {subnets : List Subnet}
    {d : Directory} (hnames : (requests.map (·.name)).Nodup)
    (haliases : (requests.map (·.aliasName)).Nodup)
    (htokens : (requests.filterMap (·.legacyToken)).Nodup)
    (hd : (ofSubnets requests subnets).Extends d) :
    (forall name aliasName,
      (d.aliasForName name = some aliasName ↔ d.nameForAlias aliasName = some name) ∧
      (d.nameForAlias aliasName = some name ↔
        exists r, r ∈ requests ∧ r.name = name ∧ r.aliasName = aliasName)) ∧
    (forall token aliasName,
      (d.aliasForToken token = some aliasName ↔ d.tokenForAlias aliasName = some token) ∧
      (d.tokenForAlias aliasName = some token ↔
        exists r, r ∈ requests ∧ r.aliasName = aliasName ∧ r.legacyToken = some token)) ∧
    ((subnets.map (·.aliasName)).Nodup -> forall aliasName block,
      d.blockOf aliasName = some block ↔
        exists s, s ∈ subnets ∧ s.aliasName = aliasName ∧ s.block = block) ∧
    d.SameIdentifiers (ofSubnets requests subnets) := by
  rcases hd.same_entries with ⟨hrequests, hsubnets⟩
  rw [ofSubnets] at hrequests hsubnets
  refine ⟨?_, ?_, ?_, hd.sameIdentifiers⟩
  · intro name aliasName
    rw [aliasForName_eq_some_iff (by rwa [hrequests]),
      nameForAlias_eq_some_iff (by rwa [hrequests]), hrequests]
    exact ⟨Iff.rfl, Iff.rfl⟩
  · intro token aliasName
    rw [aliasForToken_eq_some_iff (by rwa [hrequests]),
      tokenForAlias_eq_some_iff (by rwa [hrequests]), hrequests]
    exact ⟨Iff.rfl, Iff.rfl⟩
  · intro hplaced aliasName block
    rw [blockOf_eq_some_iff (by rwa [hsubnets]), hsubnets]

/-- A request with a token among requests without one, and a directory that was added to. -/
theorem identifiers_inverse_gateway :
    let requests : List SubnetRequest := [
      ⟨"snet-user", "usernode", 24, none⟩, ⟨"snet-agic", "gateway", 24, some "agic"⟩,
      ⟨"gateway", "firewall", 26, none⟩]
    let subnets : List Subnet := [⟨"snet-agic", "gateway", Block.ofNetwork 0x0A000000 24⟩]
    let d := ((ofSubnets requests subnets).addServiceTags ["Internet"]).addSelector "maintBastion"
      ⟨none, "gateway"⟩
    (requests.map (·.name)).Nodup ∧ (requests.map (·.aliasName)).Nodup ∧
    (requests.filterMap (·.legacyToken)).Nodup ∧ (ofSubnets requests subnets).Extends d ∧
    d.aliasForName "gateway" = some "firewall" ∧ d.nameForAlias "gateway" = some "snet-agic" ∧
    d.aliasForToken "agic" = some "gateway" ∧ d.tokenForAlias "gateway" = some "agic" ∧
    d.blockOf "gateway" = some (Block.ofNetwork 0x0A000000 24) := by
  intro requests subnets d
  have hnames : (requests.map (·.name)).Nodup := by decide
  have haliases : (requests.map (·.aliasName)).Nodup := by decide
  have htokens : (requests.filterMap (·.legacyToken)).Nodup := by decide
  have hd : (ofSubnets requests subnets).Extends d :=
    (Extends.refl.addServiceTags ["Internet"]).addSelector "maintBastion" ⟨none, "gateway"⟩
  rcases identifiers_inverse hnames haliases htokens hd with ⟨hname, htoken, hblock, _⟩
  have hgateway : d.tokenForAlias "gateway" = some "agic" :=
    (htoken _ _).right.mpr ⟨⟨"snet-agic", "gateway", 24, some "agic"⟩, by decide, rfl, rfl⟩
  have hagic : d.nameForAlias "gateway" = some "snet-agic" :=
    (hname _ _).right.mpr ⟨⟨"snet-agic", "gateway", 24, some "agic"⟩, by decide, rfl, rfl⟩
  have hfirewall : d.nameForAlias "firewall" = some "gateway" :=
    (hname _ _).right.mpr ⟨⟨"gateway", "firewall", 26, none⟩, by decide, rfl, rfl⟩
  exact ⟨hnames, haliases, htokens, hd, (hname _ _).left.mpr hfirewall, hagic,
    (htoken _ _).left.mpr hgateway, hgateway,
    (hblock (by decide) _ _).mpr ⟨_, List.mem_cons_self, rfl, rfl⟩⟩

end Directory
end NetworkPlan

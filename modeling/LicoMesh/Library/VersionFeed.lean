import Mathlib.Data.List.Basic

namespace LicoMesh.Library.VersionFeed

/-! A feed whose items carry the version of a changing value. The version of the value may run
ahead of the feed; an item that is published carries the version of the value. -/

variable {ε γ : Type} (version : ε → Nat) (content : ε → γ)

/-- Versions never go back, and a version has one content. -/
def Ordered (feed : List ε) : Prop :=
  feed.Pairwise fun earlier later =>
    version earlier ≤ version later ∧
      (version earlier = version later → content earlier = content later)

structure Upto (feed : List ε) (latest : Nat) (value : Option γ) : Prop where
  ordered : Ordered version content feed
  bounded : ∀ item ∈ feed, version item ≤ latest
  current : ∀ item ∈ feed, version item = latest → some (content item) = value

variable {version content} {feed : List ε} {latest : Nat} {value : Option γ}

theorem Upto.nil : Upto version content [] latest value := ⟨.nil, nofun, nofun⟩

variable (upto : Upto version content feed latest value)
include upto

theorem Upto.advance
    (newer : latest < next) (changed : Option γ) : Upto version content feed next changed where
  ordered := upto.ordered
  bounded := fun item mem => Nat.le_trans (upto.bounded item mem) (Nat.le_of_lt newer)
  current := fun item mem same => absurd (same ▸ upto.bounded item mem) (Nat.not_le_of_lt newer)

theorem Upto.publish (atLatest : version item = latest) (atValue : some (content item) = value) :
    Upto version content (feed ++ [item]) latest value where
  ordered := by
    refine List.pairwise_append.mpr ⟨upto.ordered, List.pairwise_singleton _ _, ?_⟩
    intro earlier mem later isItem
    rw [List.mem_singleton.mp isItem]
    refine ⟨atLatest ▸ upto.bounded earlier mem, fun same => ?_⟩
    exact Option.some.inj ((upto.current earlier mem (same.trans atLatest)).trans atValue.symm)
  bounded := by
    intro published mem
    rcases List.mem_append.mp mem with old | new
    · exact upto.bounded published old
    · exact Nat.le_of_eq (List.mem_singleton.mp new ▸ atLatest)
  current := by
    intro published mem same
    rcases List.mem_append.mp mem with old | new
    · exact upto.current published old same
    · exact List.mem_singleton.mp new ▸ atValue

omit upto

theorem Ordered.versions (ordered : Ordered version content feed) :
    (feed.map version).Pairwise (· ≤ ·) :=
  List.pairwise_map.mpr (ordered.imp And.left)

theorem Ordered.content_eq (ordered : Ordered version content feed)
    (hleft : left ∈ feed) (hright : right ∈ feed) (same : version left = version right) :
    content left = content right := by
  have forward : feed.Pairwise fun left right =>
      version left = version right → content left = content right := ordered.imp And.right
  have backward : feed.Pairwise (flip fun left right =>
      version left = version right → content left = content right) :=
    forward.imp fun equal same => (equal same.symm).symm
  exact List.Pairwise.forall_of_forall_of_flip (fun _ _ _ => rfl) forward backward hleft hright same

end LicoMesh.Library.VersionFeed

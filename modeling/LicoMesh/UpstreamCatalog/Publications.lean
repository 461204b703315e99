import LicoMesh.Library.VersionFeed
import LicoMesh.UpstreamCatalog.Committer

namespace LicoMesh.UpstreamCatalog

open Library.VersionFeed

/-! What every run of a committer leaves: one manifest revision on both sides, each accepted
snapshot announced once, and audience revisions that name one content. -/

variable {audience : AudienceProjection} {pending : PendingPublication} {published : Bool}
  {env : CatalogEnv} {services : List (String × ServiceEntry)} {s next : Committer}

def CatalogEvent.key (event : CatalogEvent) : PublicationKey :=
  (event.sourceRevision, event.sourceDigest)

def CatalogFacts.key (facts : CatalogFacts) : PublicationKey :=
  (facts.sourceRevision, facts.sourceDigest)

namespace Committer

def acceptedSnapshot (s : Committer) : Option Snapshot :=
  match s.pendingPublication with
  | some pending => some pending.snapshot
  | none => s.lastSnapshot

def acceptedAudience (s : Committer) : Option AudienceProjection :=
  match s.pendingPublication with
  | some pending => some pending.audienceProjection
  | none => s.lastAudienceProjection

def acceptedKeys (s : Committer) : List PublicationKey := s.accepted.map publicationKey

def announcedKeys (s : Committer) : List PublicationKey := s.catalogEvents.map CatalogEvent.key

end Committer

/-- The registry and the platform hold the snapshot that was accepted last. -/
def SameRevision (env : CatalogEnv) (services : List (String × ServiceEntry)) (s : Committer) :
    Prop :=
  match s.acceptedSnapshot with
  | none => s.registry = initialRegistry services ∧ s.platform = initialPlatform
  | some snapshot =>
    s.registry = ⟨snapshot.setRevision, snapshot.setDigest, snapshot.serviceEntries⟩ ∧
      ∃ projection, compileUpstreamOperationProjection env snapshot = some projection ∧
        s.platform = ⟨snapshot.setRevision, snapshot.setDigest, projection.operations⟩

def Announced (s : Committer) : Prop :=
  match s.pendingPublication with
  | none => s.announcedKeys = s.acceptedKeys
  | some pending =>
    (s.lastPublishedEventDigest = some pending.facts ∧ s.announcedKeys = s.acceptedKeys) ∨
      (s.lastPublishedEventDigest ≠ some pending.facts ∧
        s.announcedKeys = s.acceptedKeys.dropLast)

structure Settled (env : CatalogEnv) (services : List (String × ServiceEntry)) (s : Committer) :
    Prop where
  sameRevision : SameRevision env services s
  committedKey : s.lastCommittedKey = s.lastSnapshot.map publicationKey
  pendingKey : ∀ pending, s.pendingPublication = some pending →
    pending.key = publicationKey pending.snapshot
  latest : s.accepted.getLast? = s.acceptedSnapshot
  increasing : (s.accepted.map (·.setRevision)).Pairwise (· < ·)
  announced : Announced s
  published : ∀ facts, s.lastPublishedEventDigest = some facts → facts.key ∈ s.announcedKeys

def audienceRevision (audience : Option AudienceProjection) : Nat :=
  (audience.map (·.audienceRevision)).getD 0

def AudienceFeed (s : Committer) : Prop :=
  Upto AudienceEvent.audienceRevision AudienceEvent.projectionDigest s.audienceEvents
    (audienceRevision s.acceptedAudience) (s.acceptedAudience.map (·.projectionDigest))

/-- What a call leaves as it was when it accepts nothing. -/
structure Keeps (s next : Committer) : Prop where
  registry : next.registry = s.registry
  platform : next.platform = s.platform
  accepted : next.accepted = s.accepted
  acceptedSnapshot : next.acceptedSnapshot = s.acceptedSnapshot
  acceptedAudience : next.acceptedAudience = s.acceptedAudience
  lastAudienceProjection : s.pendingPublication = none →
    next.lastAudienceProjection = s.lastAudienceProjection

theorem Keeps.refl (s : Committer) : Keeps s s := ⟨rfl, rfl, rfl, rfl, rfl, fun _ => rfl⟩

variable (emitted : emitCatalogPublicationEvent s pending published = some next)

include emitted in
theorem emitCatalogPublicationEvent_cases :
    (s.lastPublishedEventDigest = some pending.facts ∧ next = s) ∨
    (s.lastPublishedEventDigest ≠ some pending.facts ∧ next = { s with
        catalogEvents := s.catalogEvents ++ [pending.event]
        lastPublishedEventDigest := some pending.facts }) := by
  unfold emitCatalogPublicationEvent at emitted
  split at emitted
  next replayed => exact Or.inl ⟨replayed, (Option.some.inj emitted).symm⟩
  next fresh =>
    obtain ⟨-, isNext⟩ := Option.ite_none_right_eq_some.mp emitted
    exact Or.inr ⟨fresh, (Option.some.inj isNext).symm⟩

variable (settled : Settled env services s)

include settled in
theorem Settled.announce (isPending : s.pendingPublication = some pending)
    (emitted : emitCatalogPublicationEvent s pending published = some next) :
    Settled env services next ∧ next.announcedKeys = next.acceptedKeys ∧ next = { s with
        catalogEvents := next.catalogEvents
        lastPublishedEventDigest := some pending.facts } := by
  have announced := settled.announced
  simp only [Announced, isPending] at announced
  rcases emitCatalogPublicationEvent_cases emitted with ⟨replayed, rfl⟩ | ⟨fresh, rfl⟩
  · obtain ⟨-, announced⟩ := announced.resolve_right fun unpublished => unpublished.1 replayed
    refine ⟨settled, announced, ?_⟩
    rw [← replayed]
  · obtain ⟨-, announced⟩ := announced.resolve_left fun published => fresh published.1
    have isLast : s.accepted.getLast? = some pending.snapshot := by
      simp only [settled.latest, Committer.acceptedSnapshot, isPending]
    obtain ⟨earlier, accepted⟩ := List.getLast?_eq_some_iff.mp isLast
    have complete : (s.catalogEvents ++ [pending.event]).map CatalogEvent.key =
        s.acceptedKeys := by
      rw [List.map_append]
      change s.announcedKeys ++ [publicationKey pending.snapshot] = _
      rw [announced, Committer.acceptedKeys, accepted, List.map_append, List.map_singleton,
        List.dropLast_concat]
    refine ⟨⟨settled.sameRevision, settled.committedKey, settled.pendingKey, settled.latest,
      settled.increasing, ?_, ?_⟩, complete, rfl⟩
    · simp only [Announced, isPending]
      exact .inl ⟨trivial, complete⟩
    · intro facts isFacts
      obtain rfl := Option.some.inj isFacts
      simp only [Committer.announcedKeys, List.map_append]
      exact List.mem_append_right _ (List.mem_singleton.mpr rfl)

theorem emitAudiencePublicationEvent_frame (s : Committer) (audience : AudienceProjection)
    (channel : Channel) :
    let emitted := (emitAudiencePublicationEvent s audience channel).1
    emitted = { s with
      audienceEvents := emitted.audienceEvents
      lastAudienceEventDigest := emitted.lastAudienceEventDigest
      lastAudienceAdmissionDigest := emitted.lastAudienceAdmissionDigest } := by
  simp only [emitAudiencePublicationEvent]
  split_ifs <;> rfl

theorem emitAudiencePublicationEvent_events (s : Committer) (audience : AudienceProjection)
    (channel : Channel) :
    let emitted := (emitAudiencePublicationEvent s audience channel).1
    emitted.audienceEvents = s.audienceEvents ∨
      emitted.audienceEvents = s.audienceEvents ++ [createAudiencePublicationEvent audience] := by
  simp only [emitAudiencePublicationEvent]
  split_ifs <;> simp

theorem emitAudiencePublicationEvent_refused
    (admits : channel.audiencePublished = true → channel.audienceAdmitted = true)
    (refused : emitAudiencePublicationEvent s audience channel = (next, none)) : next = s := by
  simp only [emitAudiencePublicationEvent] at refused
  split_ifs at refused <;> simp_all

theorem finishPendingPublication_cases (s : Committer) (channel : Channel) :
    (s.pendingPublication = none ∧ finishPendingPublication s channel = (s, .nothing)) ∨
    (∃ pending, s.pendingPublication = some pending ∧
      finishPendingPublication s channel = (s, .failed)) ∨
    ∃ pending announced, s.pendingPublication = some pending ∧
      emitCatalogPublicationEvent s pending channel.catalogPublished = some announced ∧
      ∃ emitted, emitted =
          (emitAudiencePublicationEvent announced pending.audienceProjection channel).1 ∧
        (finishPendingPublication s channel = (emitted, .failed) ∨
          finishPendingPublication s channel =
            (completePublication emitted pending, .completed pending.key)) := by
  unfold finishPendingPublication
  split
  next isNone => exact .inl ⟨isNone, rfl⟩
  next pending isPending =>
    split
    next => exact .inr (.inl ⟨pending, isPending, rfl⟩)
    next announced isAnnounced =>
      refine .inr (.inr ⟨pending, announced, isPending, isAnnounced, ?_⟩)
      split
      next emitted isEmitted => exact ⟨emitted, by rw [isEmitted], .inl rfl⟩
      next emitted _ isEmitted => exact ⟨emitted, by rw [isEmitted], .inr rfl⟩

theorem finishPendingPublication_done (s : Committer) (channel : Channel) :
    (finishPendingPublication s channel).2 = .failed ∨
      (finishPendingPublication s channel).1.pendingPublication = none := by
  rcases finishPendingPublication_cases s channel with
    ⟨isNone, done⟩ | ⟨_, _, failed⟩ | ⟨_, _, _, _, _, _, failed | done⟩
  · exact .inr (done ▸ isNone)
  · exact .inl (by rw [failed])
  · exact .inl (by rw [failed])
  · exact .inr (by rw [done]; rfl)

include emitted in
theorem emitCatalogPublicationEvent_frame : next = { s with
      catalogEvents := next.catalogEvents
      lastPublishedEventDigest := next.lastPublishedEventDigest } := by
  rcases emitCatalogPublicationEvent_cases emitted with ⟨-, rfl⟩ | ⟨-, rfl⟩ <;> rfl

theorem finishPendingPublication_keeps (s : Committer) (channel : Channel) :
    Keeps s (finishPendingPublication s channel).1 := by
  rcases finishPendingPublication_cases s channel with
    ⟨_, done⟩ | ⟨_, _, failed⟩ | ⟨pending, announced, isPending, isAnnounced, emitted, isEmitted,
      outcome⟩
  · rw [done]; exact .refl s
  · rw [failed]; exact .refl s
  · have frame := emitAudiencePublicationEvent_frame announced pending.audienceProjection channel
    simp only [← isEmitted] at frame
    rw [emitCatalogPublicationEvent_frame isAnnounced] at frame
    have noPending : s.pendingPublication ≠ none := by rw [isPending]; nofun
    rcases outcome with failed | done
    · rw [failed, frame]
      exact ⟨rfl, rfl, rfl, rfl, rfl, fun isNone => absurd isNone noPending⟩
    · rw [done, frame]
      refine ⟨rfl, rfl, rfl, ?_, ?_, fun isNone => absurd isNone noPending⟩
      · simp only [Committer.acceptedSnapshot, completePublication, isPending]
      · simp only [Committer.acceptedAudience, completePublication, isPending]

include settled

theorem Settled.congr (frame : next = { s with
      audienceEvents := next.audienceEvents
      lastAudienceEventDigest := next.lastAudienceEventDigest
      lastAudienceAdmissionDigest := next.lastAudienceAdmissionDigest
      lastAudienceProjection := next.lastAudienceProjection }) : Settled env services next := by
  rw [frame]
  exact ⟨settled.sameRevision, settled.committedKey, settled.pendingKey, settled.latest,
    settled.increasing, settled.announced, settled.published⟩

theorem Settled.complete (isPending : s.pendingPublication = some pending)
    (announced : s.announcedKeys = s.acceptedKeys) :
    Settled env services (completePublication s pending) where
  sameRevision := by
    have same := settled.sameRevision
    simp only [SameRevision, Committer.acceptedSnapshot, isPending] at same
    exact same
  committedKey := congrArg some (settled.pendingKey pending isPending)
  pendingKey _ isPending := absurd isPending.symm (Option.some_ne_none _)
  latest := by
    have latest := settled.latest
    simp only [Committer.acceptedSnapshot, isPending] at latest
    exact latest
  increasing := settled.increasing
  announced := announced
  published := settled.published

theorem Settled.finish (channel : Channel) :
    Settled env services (finishPendingPublication s channel).1 := by
  rcases finishPendingPublication_cases s channel with
    ⟨_, done⟩ | ⟨_, _, failed⟩ | ⟨pending, announced, isPending, isAnnounced, emitted, isEmitted,
      outcome⟩
  · rw [done]; exact settled
  · rw [failed]; exact settled
  · obtain ⟨settledNow, complete, out⟩ := settled.announce isPending isAnnounced
    have frame := emitAudiencePublicationEvent_frame announced pending.audienceProjection channel
    simp only [← isEmitted] at frame
    have settledEmitted : Settled env services emitted := settledNow.congr (by rw [frame])
    rcases outcome with failed | done
    · rw [failed]; exact settledEmitted
    · rw [done]
      refine settledEmitted.complete ?_ ?_
      · rw [frame, out]; exact isPending
      · rw [frame]; exact complete

omit settled

theorem AudienceFeed.emit (feed : AudienceFeed s) (accepted : s.acceptedAudience = some audience)
    (channel : Channel) : Upto AudienceEvent.audienceRevision AudienceEvent.projectionDigest
      (emitAudiencePublicationEvent s audience channel).1.audienceEvents
      (audienceRevision s.acceptedAudience) (s.acceptedAudience.map (·.projectionDigest)) := by
  rcases emitAudiencePublicationEvent_events s audience channel with same | more
  · rw [same]
    exact feed
  · rw [more, accepted]
    exact .publish (accepted ▸ feed) rfl rfl

theorem AudienceFeed.finish (feed : AudienceFeed s) (channel : Channel) :
    AudienceFeed (finishPendingPublication s channel).1 := by
  have keeps := finishPendingPublication_keeps s channel
  unfold AudienceFeed
  rw [keeps.acceptedAudience]
  rcases finishPendingPublication_cases s channel with
    ⟨_, done⟩ | ⟨_, _, failed⟩ | ⟨pending, announced, isPending, isAnnounced, emitted, isEmitted,
      outcome⟩
  · rw [done]; exact feed
  · rw [failed]; exact feed
  · have frame := emitCatalogPublicationEvent_frame isAnnounced
    have isAccepted : announced.acceptedAudience = some pending.audienceProjection := by
      rw [frame]
      simp only [Committer.acceptedAudience, isPending]
    have sameAccepted : s.acceptedAudience = announced.acceptedAudience := by
      rw [isAccepted]
      simp only [Committer.acceptedAudience, isPending]
    have feedAnnounced : AudienceFeed announced := by
      unfold AudienceFeed
      rw [← sameAccepted, frame]
      exact feed
    have events := feedAnnounced.emit isAccepted channel
    rw [← isEmitted, ← sameAccepted] at events
    rcases outcome with failed | done
    · rw [failed]; exact events
    · rw [done]; exact events

end LicoMesh.UpstreamCatalog

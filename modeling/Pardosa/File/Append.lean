import Pardosa.File.Adapter

/-!
# What an append does to the event data

One rule for `FileEngine.appendBlock`: an error leaves the event data alone, a
landed block stands behind it as a whole, and an undetermined one leaves any
beginning of itself there and fences the session. At no point between two file
operations is anything but a beginning of the block behind the old bytes.
-/

namespace Pardosa

open Foundation

section Rules

/-- An append of a block is allowed: what arrived of it may grow, and may be taken
back as long as it is not whole. -/
structure Appending (allows : Option Bytes → Option Bytes → Prop) (base block : Bytes) : Prop where
  grows : ∀ part whole, part <+: whole → whole <+: block →
    allows (some (base ++ part)) (some (base ++ whole))
  cut : ∀ part, part <+: block → (part = block → part = []) →
    allows (some (base ++ part)) (some base)

/-- A property that every beginning of the block keeps is kept through the append. -/
theorem Appending.of_safe {safe : Option Bytes → Prop} {base block : Bytes}
    (promised : ∀ part, part <+: block → safe (some (base ++ part))) :
    Appending (fun before after => safe before → safe after) base block where
  grows part whole _ begins _ := promised whole begins
  cut part begins _ _ := by
    have emptied := promised [] List.nil_prefix
    rwa [List.append_nil] at emptied

variable {allows : Option Bytes → Option Bytes → Prop} [Std.Refl allows] {world : FileWorld}
  {base block : Bytes}

omit [Std.Refl allows] in
/-- What has arrived of a block with bytes still to come is not the whole of it. -/
theorem partly_of_split {arrived bytes : Bytes} {byte : UInt8}
    (split : arrived ++ byte :: bytes = block) (whole : arrived = block) : arrived = [] := by
  rw [whole] at split
  simp at split

/-- Rounds of `write_all` leave a beginning of the block behind the old bytes. -/
theorem wp_writeAllLoop_pgno {post : Except IoError Unit → FileWorld → Prop}
    (promised : Appending allows base block)
    (written : ∀ after, (after .pgnoFile).content = some (base ++ block) → post (.ok ()) after)
    (failed : ∀ failure part after, part <+: block → (part = block → part = []) →
      (after .pgnoFile).content = some (base ++ part) → post (.error failure) after)
    {rounds : Nat} {arrived bytes : Bytes} (split : arrived ++ bytes = block)
    (stands : world .pgnoFile = ⟨some (base ++ arrived), (base ++ arrived).length⟩) :
    (writeAllLoop .pgnoFile rounds bytes).wp (honouring allows) post world := by
  induction rounds generalizing world arrived bytes with
  | zero =>
      cases bytes with
      | nil =>
          rw [List.append_nil] at split
          exact written world (by rw [stands, split])
      | cons byte bytes =>
          exact failed _ arrived world ⟨byte :: bytes, split⟩ (partly_of_split split)
            (by rw [stands])
  | succ rounds ih =>
      cases bytes with
      | nil =>
          rw [List.append_nil] at split
          exact written world (by rw [stands, split])
      | cons byte bytes =>
          refine (Program.wp_bind _ _ _ _).mpr (wp_write_pgno stands ?_ ?_ ?_)
          · intro count _
            rw [List.append_assoc]
            refine promised.grows _ _ (List.prefix_append _ _) ⟨(byte :: bytes).drop count, ?_⟩
            rw [List.append_assoc, List.take_append_drop, split]
          · rintro (_ | count) after within moved
            · refine failed _ arrived after ⟨byte :: bytes, split⟩ (partly_of_split split) ?_
              rw [moved, List.take_zero, List.append_nil]
            · have progress : (arrived ++ (byte :: bytes).take (count + 1)) ++
                  (byte :: bytes).drop (count + 1) = block := by
                rw [List.append_assoc, List.take_append_drop, split]
              refine ih progress ?_
              have taken : ((byte :: bytes).take (count + 1)).length = count + 1 :=
                List.length_take_of_le within
              have moves : (base ++ arrived ++ (byte :: bytes).take (count + 1)).length =
                  (base ++ arrived).length + (count + 1) :=
                List.length_append.trans (congrArg ((base ++ arrived).length + ·) taken)
              rw [moved, ← List.append_assoc, moves]
          · intro failure after still
            exact failed failure arrived after ⟨byte :: bytes, split⟩ (partly_of_split split)
              (by rw [still])

/-- A rollback leaves the old bytes, or fails and leaves what arrived. -/
theorem wp_rollBack {part : Bytes} {post : RollbackOutcome → FileWorld → Prop}
    (stands : (world .pgnoFile).content = some (base ++ part))
    (promised : allows (some (base ++ part)) (some base))
    (uncut : ∀ outcome after, (after .pgnoFile).content = some (base ++ part) → post outcome after)
    (cut : ∀ outcome after, (after .pgnoFile).content = some base → post outcome after) :
    (rollBack base.length).wp (honouring allows) post world := by
  have known : world .pgnoFile = ⟨some (base ++ part), (world .pgnoFile).position⟩ := by
    rw [← stands]
  refine (Program.wp_bind _ _ _ _).mpr (wp_setLen_pgno known ?_ ?_ ?_)
  · rw [resize_append]
    exact promised
  · intro first resized
    rw [resize_append] at resized
    refine (Program.wp_bind _ _ _ _).mpr (wp_syncData_pgno resized ?_)
    rintro (failure | _) second still
    · exact cut _ second (by rw [still])
    refine (Program.wp_bind _ _ _ _).mpr (wp_seekStart_pgno still ?_ ?_)
    · intro third moved
      exact cut _ third (by rw [moved])
    · intro failure third unmoved
      exact cut _ third (by rw [unmoved])
  · intro failure first still
    exact uncut _ first (by rw [still])

end Rules

namespace FileEngine

variable {allows : Option Bytes → Option Bytes → Prop} [Std.Refl allows] {world : FileWorld}
  {base block : Bytes} {engine : FileEngine}

/-- What may follow an append, by what stands behind the old bytes. -/
structure AppendPost (engine : FileEngine) (base block : Bytes)
    (post : Except OperationFailure (WriteLandingVerdict Nat) → FileEngine → FileWorld → Prop) :
    Prop where
  refused : ∀ failure after, (after .pgnoFile).content = some base →
    post (.error failure) engine after
  landed : ∀ after, (after .pgnoFile).content = some (base ++ block) →
    post (.ok (.landed (engine.frameCount + 1)))
      { engine with frameCount := engine.frameCount + 1 } after
  undetermined : ∀ part diagnostic after, part <+: block →
    (after .pgnoFile).content = some (base ++ part) →
    post (.ok (.undetermined engine.carriedEpoch)) (engine.fence diagnostic) after

variable {post : Except OperationFailure (WriteLandingVerdict Nat) → FileEngine → FileWorld → Prop}

/-- An append that gives up leaves some beginning of its block, and a fenced engine. -/
theorem wp_abandonBlock (holds : AppendPost engine base block post) {part : Bytes}
    {failure : IoError} (promised : Appending allows base block) (begins : part <+: block)
    (partly : part = block → part = [])
    (stands : (world .pgnoFile).content = some (base ++ part)) :
    (abandonBlock base.length failure).wp (honouring allows) post engine world := by
  simp only [abandonBlock, Action.wp_bind, Action.wp_lift, Action.wp_modify, Action.wp_get,
    Action.wp_pure]
  refine wp_rollBack stands (promised.cut part begins partly) ?_ ?_
  · intro outcome after still
    exact holds.undetermined part _ after begins still
  · intro outcome after cut
    refine holds.undetermined [] _ after List.nil_prefix ?_
    rw [List.append_nil]
    exact cut

/-- A synchronization leaves the event data alone, also a simulated one. -/
theorem wp_syncRes {post : Except IoError Unit → FileWorld → Prop} {content : Bytes}
    (stands : (world .pgnoFile).content = some content)
    (holds : ∀ answer after, (after .pgnoFile).content = some content → post answer after) :
    engine.syncRes.wp (honouring allows) post world := by
  have known : world .pgnoFile = ⟨some content, (world .pgnoFile).position⟩ := by rw [← stands]
  unfold syncRes
  split
  · exact holds _ world stands
  · refine wp_syncData_pgno known ?_
    intro answer after still
    exact holds answer after (by rw [still])

/-- An append that has written its whole block lands or is fenced. -/
theorem wp_settleBlock (holds : AppendPost engine base block post)
    (stands : (world .pgnoFile).content = some (base ++ block)) :
    settleBlock.wp (honouring allows) post engine world := by
  simp only [settleBlock, Action.wp_bind, Action.wp_get, Action.wp_lift]
  refine wp_syncRes stands ?_
  rintro (failure | _) after still
  · exact holds.undetermined block _ after (List.prefix_refl block) still
  · exact holds.landed after still

/-- The write of an append leaves a beginning of the block behind the old bytes. -/
theorem wp_writeRes {post : Except IoError Unit → FileWorld → Prop}
    (stands : world .pgnoFile = ⟨some base, base.length⟩)
    (promised : Appending allows base block)
    (written : ∀ after, (after .pgnoFile).content = some (base ++ block) → post (.ok ()) after)
    (failed : ∀ failure part after, part <+: block → (part = block → part = []) →
      (after .pgnoFile).content = some (base ++ part) → post (.error failure) after) :
    (engine.writeRes block).wp (honouring allows) post world := by
  unfold writeRes
  split
  · refine failed _ [] world List.nil_prefix (fun _ => rfl) ?_
    rw [stands, List.append_nil]
  · refine wp_writeAllLoop_pgno promised written failed (List.nil_append block) ?_
    rw [stands, List.append_nil]

/-- Writing a block behind the event data. -/
theorem wp_writeBlock (holds : AppendPost engine base block post)
    (stands : (world .pgnoFile).content = some base)
    (promised : Appending allows base block) :
    (writeBlock block).wp (honouring allows) post engine world := by
  have known : world .pgnoFile = ⟨some base, (world .pgnoFile).position⟩ := by rw [← stands]
  simp only [writeBlock, Action.wp_bind, Action.wp_get, Action.wp_refuseIf,
    Action.wp_lift]
  by_cases closed : (!engine.file) = true
  · rw [if_pos closed]
    exact holds.refused _ world stands
  rw [if_neg closed]
  refine wp_seekEnd_pgno known ?_ ?_
  · intro first atEnd
    refine wp_writeRes atEnd promised ?_ ?_
    · intro after whole
      exact wp_settleBlock holds whole
    · intro failure part after begins partly arrived
      exact wp_abandonBlock holds promised begins partly arrived
  · intro failure first still
    exact holds.refused _ first (by rw [still])

variable [Digests]

/-- The authority check looks at the ownership record only, and refuses a fenced
session. -/
theorem wp_checkAuthority {post : Except OperationFailure Unit → FileEngine → FileWorld → Prop}
    (refused : ∀ failure after, after .pgnoFile = world .pgnoFile →
      post (.error failure) engine after)
    (passed : ∀ after, after .pgnoFile = world .pgnoFile → engine.uncertain = false →
      post (.ok ()) engine after) :
    checkAuthority.wp (honouring allows) post engine world := by
  simp only [checkAuthority, Action.wp_bind, Action.wp_get, Action.wp_refuseIf]
  by_cases uncertain : engine.uncertain = true
  · rw [if_pos uncertain]
    exact refused _ world rfl
  rw [if_neg uncertain]
  by_cases unlocked : engine.lacksExclusion = true
  · rw [if_pos unlocked]
    exact refused _ world rfl
  rw [if_neg unlocked]
  refine wp_readMetaRecords ?_
  rintro (failure | records) after kept
  · exact refused failure after kept
  dsimp only
  split_ifs with retired
  · exact refused _ after kept
  simp only [Action.wp_require]
  cases records.latestClaim with
  | none => exact refused _ after kept
  | some claim =>
      dsimp only
      split_ifs with stale
      · exact refused _ after kept
      · exact passed after kept (by simpa using uncertain)

/-- An append, by what stands behind the old bytes. Only a session that is not
fenced gets past the authority check. -/
theorem wp_appendBlock (stands : (world .pgnoFile).content = some base)
    (refused : ∀ failure after, (after .pgnoFile).content = some base →
      post (.error failure) engine after)
    (certain : engine.uncertain = false →
      Appending allows base block ∧ AppendPost engine base block post) :
    (appendBlock block).wp (honouring allows) post engine world := by
  simp only [appendBlock, Action.wp_bind]
  refine wp_checkAuthority ?_ ?_
  · intro failure after kept
    exact refused failure after (by rw [kept, stands])
  intro after kept uncertain
  have still : (after .pgnoFile).content = some base := by rw [kept, stands]
  obtain ⟨promised, holds⟩ := certain uncertain
  simp only [Action.wp_get, Action.wp_refuseIf, Action.wp_mutate, checkAppendSimulation]
  split_ifs with unlocked simulated failing
  · exact refused _ after still
  · refine holds.undetermined [] _ after List.nil_prefix ?_
    rw [List.append_nil]
    exact still
  · exact refused _ after still
  · exact wp_writeBlock holds still promised

end FileEngine

end Pardosa

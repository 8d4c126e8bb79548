import GhostbustersServer.Effects.Quiet

/-!
# Handlers that only read, answer or probe

    Pushless env R   R lets pass what a handler that pushes nothing is made of: its database
                     code and random bytes
    Closed env R     and probes

Each of them is within every such preorder.
-/

namespace Ghostbusters

open Py Act

/-- The database code of the requests, and of a batch, that stores no upload. -/
inductive Db.Call (env : Env) : ∀ {α : Type}, Act Db Exc α → Prop
  | account (name : Str) : Db.Call env (do Db.openDb env; findOrCreateAccount env name)
  | career (pid : Nat) : Db.Call env (do Db.dbCon env; Career.getCareer env pid)
  | board (pid cat : Nat) : Db.Call env (do Db.dbCon env; Career.getLeaderboard env pid cat)
  | ranked (cat : Nat) : Db.Call env (do Db.dbCon env; Career.rankedForCategory env cat)
  | connect : Db.Call env (Db.dbCon env)
  | name (pid : Nat) : Db.Call env (nameForPid env pid)
  | cash (pid : Nat) :
    Db.Call env (do Db.dbCon env; let x ← Career.careerCash env pid; return (pid, x))

/-- It spares the stats. -/
theorem Db.Call.kept {env : Env} {α : Type} {m : Act Db Exc α} (h : Db.Call env m) :
    Within Db.Kept m := by
  cases h with
  | account name => exact Within.bind (Db.openDb_kept env) fun _ => findOrCreateAccount_kept env name
  | career pid => exact Within.bind (Db.dbCon_kept env) fun _ => Career.getCareer_kept env pid
  | board pid cat => exact Within.bind (Db.dbCon_kept env) fun _ => Career.getLeaderboard_kept env pid cat
  | ranked cat => exact Within.bind (Db.dbCon_kept env) fun _ => Career.rankedForCategory_kept env cat
  | connect => exact Db.dbCon_kept env
  | name pid => exact nameForPid_kept env pid
  | cash pid =>
    refine Within.bind (Db.dbCon_kept env) fun _ => ?_
    exact Within.bind (Career.careerCash_kept env pid) fun _ => Within.pure _

structure Pushless (env : Env) (R : World → World → Prop) : Prop where
  useDb : ∀ {α : Type} {m : Act Db Exc α}, Db.Call env m → Within R (Srv.useDb m)
  random : ∀ n, Within R (Srv.random env n)

structure Closed (env : Env) (R : World → World → Prop) : Prop extends Pushless env R where
  /-- any push but an event -/
  push : ∀ port c proto method params, proto ≠ Notification.proto →
    Within R (RMCDispatcher.sendRequest env port c proto method params)

theorem conn_within {R : World → World → Prop} [IsPreorder World R] (c : ConnId) :
    Within R (Srv.conn c) :=
  Within.bind Within.get fun _ => Within.pure _

theorem mute_closed (env : Env) : Closed env Mute where
  useDb := fun hm => Srv.useDb_mute hm.kept
  random := Srv.random_mute env
  push := fun port c _ method params h =>
    sendRequest_mute env port c _ method params (Notification.noticeIn_of_proto h c method params)

theorem Closed.mono {env : Env} {R R' : World → World → Prop} (h : Closed env R)
    (hR : ∀ w w', R w w' → R' w w') : Closed env R' where
  useDb := fun hm => (h.useDb hm).mono hR
  random := fun n => (h.random n).mono hR
  push := fun port c proto method params hp => (h.push port c proto method params hp).mono hR

namespace Pushless

variable {env : Env} {R : World → World → Prop} [IsPreorder World R] (h : Pushless env R)
include h

theorem login (request : Request) : Within R (Authentication.login env request) := by
  apply withParsed_within
  intro username
  split
  · exact Within.pure _
  · refine Within.bind (h.useDb (.account username)) fun pid => ?_
    refine Within.bind (h.random _) fun rand => ?_
    exact Within.bind (Within.ofExcept _) fun _ => Within.pure _

theorem requestTicket (request : Request) : Within R (Authentication.requestTicket env request) := by
  apply withParsed_within
  intro pids
  refine Within.bind (h.random _) fun rand => ?_
  exact Within.bind (Within.ofExcept _) fun _ => Within.pure _

omit h in
theorem getAccountInfoPublicData (request : Request) :
    Within R (AccountManagement.getAccountInfoPublicData request) :=
  withParsed_within _ _ _ fun _ => Within.pure _

theorem getCareerVec0 (pid : Nat) : Within R (Game.getCareerVec0 env pid) :=
  Within.bind (Within.attempt (h.useDb (.career pid))) fun _ => Within.pure _

theorem getLeaderboard (pid cat : Nat) : Within R (Game.getLeaderboard env pid cat) :=
  Within.bind (Within.attempt (h.useDb (.board pid cat))) fun _ => Within.pure _

omit h in
theorem statsReply {slots : Nat → Srv Game.Slots} (hs : ∀ pid, Within R (slots pid))
    (pids : List Nat) : Within R (Game.statsReply slots pids) := by
  refine Within.bind (Within.mapEach pids ?_) fun _ => Within.pure _
  intro pid _
  exact Within.bind (hs pid) fun _ => Within.pure _

theorem userStats (request : Request) : Within R (Game.userStats env request) := by
  unfold Game.userStats
  dsimp only
  split
  · refine Within.bind (statsReply ?_ _) fun body => ?_
    · intro pid
      exact Within.bind (h.getCareerVec0 pid) fun _ => Within.pure _
    · refine Within.bind (Within.mapEach _ ?_) fun _ => Within.pure _
      intro pid _
      exact Within.bind (h.getCareerVec0 pid) fun _ => Within.ofExcept _
  · split
    · refine Within.bind (statsReply ?_ _) fun _ => Within.pure _
      intro pid
      exact Within.bind (h.getCareerVec0 pid) fun _ => Within.pure _
    · split
      · refine Within.bind (statsReply ?_ _) fun _ => Within.pure _
        intro pid
        exact Within.bind (h.getLeaderboard pid _) fun _ => Within.pure _
      · exact Within.bind (statsReply (fun _ => Within.pure _) _) fun _ => Within.pure _

theorem leaderboardEntry (position : Nat) (row : Nat × LeaderboardRow) :
    Within R (Game.leaderboardEntry env position row) := by
  refine Within.bind (h.useDb (.name row.1)) fun name => ?_
  refine Within.bind (h.getCareerVec0 row.1) fun v => ?_
  exact Within.bind (Within.ofExcept _) fun _ => Within.pure _

theorem leaderboardQuery (c : ConnId) (request : Request) :
    Within R (Game.leaderboardQuery env c request) := by
  refine Within.bind (Within.attempt (h.useDb (.ranked _))) fun r => ?_
  refine Within.bind (conn_within c) fun conn => ?_
  refine Within.bind (h.useDb .connect) fun _ => ?_
  refine Within.bind (Within.mapEach _ ?_) fun _ => Within.pure _
  intro row _
  exact h.leaderboardEntry _ _

omit h in
theorem searchGatherings (request : Request) : Within R (Game.searchGatherings request) := by
  refine Within.bind Within.get fun w => ?_
  refine Within.bind (Within.ofExcept _) fun active => ?_
  exact Within.bind (Within.ofExcept _) fun _ => Within.pure _

omit h in
theorem quickMatch (c : ConnId) (request : Request) : Within R (Game.quickMatch c request) := by
  refine Within.bind (conn_within c) fun conn => ?_
  refine Within.bind Within.get fun w => ?_
  exact Within.bind (Within.ofExcept _) fun _ => Within.pure _

end Pushless

namespace Closed

variable {env : Env} {R : World → World → Prop} [IsPreorder World R] (h : Closed env R)
include h

theorem pushProbes (port : Port) (c : ConnId) (urls : List Str) :
    Within R (NatTraversal.pushProbes env port c urls) := by
  apply Within.forEach
  intro url _
  exact h.push port c _ _ _ (by decide)

theorem requestProbeInitiation (port : Port) (c : ConnId) (request : Request) :
    Within R (NatTraversal.requestProbeInitiation env port c request) := by
  unfold NatTraversal.requestProbeInitiation
  split
  · exact Within.pure _
  · refine Within.bind Within.get fun w => ?_
    split
    · exact Within.pure _
    · refine Within.bind (h.pushProbes port _ _) fun _ => ?_
      exact Within.bind (h.pushProbes port _ _) fun _ => Within.pure _

end Closed
end Ghostbusters

import NetPlugin.Invocation

/-
  Several invocations, one after the other.

  They share the standard streams and the count of decoded
  versions; each has an environment, a plugin and an about
  text of its own.

  Key definitions include:
    * `Series.Job`
    * `Series.Job.run`
    * `Series.run`
    * `Series.final`
-/

------------------------------------------------------------
-- Jobs
------------------------------------------------------------

namespace NetPlugin

namespace Series

/- What one invocation is given, besides the streams. -/
structure Job where
  environment : Environment
  handlers : Handlers
  capabilities : Capabilities
  about : String

/- Run one job. -/
def Job.run
    (c : Collaborators)
    (job : Job) : Step Unit :=
  Invocation.run c job.environment job.handlers
    job.capabilities job.about

------------------------------------------------------------
-- Series of Jobs
------------------------------------------------------------

/- The outcomes of jobs that are run one after the other. -/
def run
    (c : Collaborators)
    (session : Session) : List Job → List (Outcome Unit)
  | [] => []
  | job :: rest =>
      let outcome := job.run c session
      outcome :: run c outcome.session rest

/- What the last of the jobs leaves. -/
def final
    (c : Collaborators)
    (session : Session) : List Job → Session
  | [] => session
  | job :: rest => final c (job.run c session).session rest

/- The jobs behind others begin with what those leave. -/
theorem run_append
    (c : Collaborators)
    (session : Session)
    (first second : List Job) :
    run c session (first ++ second) =
      run c session first ++
        run c (final c session first) second := by
  induction first generalizing session with
  | nil => rfl
  | cons job rest ih =>
      show _ :: run c (job.run c session).session
        (rest ++ second) = _
      rw [ih]
      rfl

/- Every job has an outcome. -/
theorem length_run
    (c : Collaborators)
    (session : Session)
    (jobs : List Job) :
    (run c session jobs).length = jobs.length := by
  induction jobs generalizing session with
  | nil => rfl
  | cons job rest ih => exact congrArg Nat.succ (ih _)

end Series

end NetPlugin

import JobProgress.Text.Quoted

namespace JobProgress

/-! A call to a monitor fails where it comes at a time that makes no sense, or
asks for work there is none of. -/

inductive CallError where
  | noOpenJob (operation : String)
  | unbalancedEnd
  | shareExceedsRemaining (job : String) (share available : Nat)
  /-- The next poll would lie beyond the end of the clock. -/
  | clockOverflow
  deriving DecidableEq, Repr

namespace CallError

def message : CallError → String
  | .noOpenJob operation => operation ++ " called before job_start"
  | .unbalancedEnd => "job_end without job_start"
  | .shareExceedsRemaining job share available =>
      "job " ++ Text.quoted job ++ " requested a work share of " ++ toString share ++
        " but only " ++ toString available ++ " is available"
  | .clockOverflow => "overflow when adding duration to instant"

end CallError

end JobProgress

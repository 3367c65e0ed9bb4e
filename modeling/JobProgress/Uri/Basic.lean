namespace JobProgress

/-- Identifier of a resource, in its normal form. -/
structure Uri where
  text : String
  deriving DecidableEq, Repr

end JobProgress

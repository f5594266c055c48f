/-! The core instances for powers and for hashing characters are raised above the ones Mathlib
adds, so that every definition elaborates to one term. -/

attribute [instance (high)] instPowNat instHashableChar
attribute [default_instance (high + 1)] instPowNat

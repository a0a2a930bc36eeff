/-!
# Powers

The power `b ^ n` of numbers is always the one that they bring along (`NatPow`), also where other
powers are known.
-/

attribute [instance (high), default_instance (high + 1)] instPowNat

/-!
# Powers of whole numbers

Scales and bounds are written as powers throughout. They are the core library's own powers, also
in a module that brings the powers of a monoid into scope.
-/

attribute [instance (high), default_instance high + 1] instPowNat

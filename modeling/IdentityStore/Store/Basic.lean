import IdentityStore.Policy.Basic
import IdentityStore.Settings.Basic

/-!
# Stores

The configuration of one store: its settings and its policy.
-/

namespace IdentityStore

structure Store where
  settings : StoreSettings
  policy : Policy

namespace Store

def type (s : Store) : StoreType := s.settings.type

def supports (s : Store) (t : ManagedType) (o : Operation) : Bool := s.policy.supports t o

end Store

end IdentityStore

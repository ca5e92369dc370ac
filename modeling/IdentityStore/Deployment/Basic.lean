import IdentityStore.Store.Basic

/-!
# Deployments

A deployment is the list of the configured stores, in the order in which they were first visited
while they were drafted.
-/

namespace IdentityStore

structure Deployment where
  stores : List Store

namespace Deployment

def store? (d : Deployment) (k : StoreType) : Option Store := d.stores.find? fun s => s.type == k

def storeFor? (d : Deployment) (t : ManagedType) (o : Operation) : Option Store :=
  d.stores.find? fun s => s.supports t o

end Deployment

end IdentityStore

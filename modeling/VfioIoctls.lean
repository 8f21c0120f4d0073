import VfioIoctls.Bindings
import VfioIoctls.Container
import VfioIoctls.GroupLifecycle
import VfioIoctls.Threads
import VfioIoctls.Bytes
import VfioIoctls.CapChain
import VfioIoctls.Device
import VfioIoctls.Irq
import VfioIoctls.Discovery
import VfioIoctls.Dma
import VfioIoctls.Program

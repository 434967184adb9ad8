import ConjureRuntime.Go.Readers
import ConjureRuntime.HttpClient.World
import ConjureRuntime.HttpClient.BodyTypes
import ConjureRuntime.HttpClient.Replay
import ConjureRuntime.HttpClient.StreamBodies
import ConjureRuntime.HttpClient.BodyHandler
import ConjureRuntime.HttpClient.BufferPool
import ConjureRuntime.Errors.ErrorTypeRegistry
import ConjureRuntime.RefreshingClient.TLSConfig
import ConjureRuntime.RefreshingClient.ConcurrentUpdates

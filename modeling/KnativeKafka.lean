import KnativeKafka.GoMap
import KnativeKafka.EventHubCache.Basic
import KnativeKafka.EventHubCache.Update
import KnativeKafka.EventHubCache.Selection
import KnativeKafka.EventHubCache.Consistency
import KnativeKafka.Controller.Reconciler
import KnativeKafka.Controller.Runs
import KnativeKafka.EventHubCache.Runs
